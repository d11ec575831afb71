import Mathlib.Data.List.Basic
import WalletPolicy.Time.Instant

/-!
# Runs

A log of exchanges, the earliest first, is a run if every answer in it is the responder's at that
point. Nothing is said of the clock; `Steady` is a clock that never goes back.
`Simulation.isRun_iff` is how two responders are shown to answer alike.
-/

namespace WalletPolicy

structure Exchange (Call Answer : Type) where
  time : Instant
  call : Call
  answer : Answer
  deriving DecidableEq

abbrev Responder (State Call Answer : Type) := State → Instant → Call → State × Answer

namespace Responder

variable {State Call Answer : Type} (responder : Responder State Call Answer)

def next (state : State) (exchange : Exchange Call Answer) : State :=
  (responder state exchange.time exchange.call).1

def after (state : State) (log : List (Exchange Call Answer)) : State :=
  log.foldl responder.next state

def IsRun (state : State) : List (Exchange Call Answer) → Prop
  | [] => True
  | exchange :: later =>
    exchange.answer = (responder state exchange.time exchange.call).2 ∧
      IsRun (responder.next state exchange) later

instance decidableIsRun [DecidableEq Answer] : (state : State) →
    (log : List (Exchange Call Answer)) → Decidable (responder.IsRun state log)
  | _, [] => inferInstanceAs (Decidable True)
  | state, exchange :: later =>
    have := decidableIsRun (responder.next state exchange) later
    inferInstanceAs (Decidable (_ ∧ _))

variable {responder} {state : State} {exchange : Exchange Call Answer}
  {before later : List (Exchange Call Answer)}

@[simp] theorem after_nil : responder.after state [] = state := rfl

@[simp] theorem after_append_singleton :
    responder.after state (before ++ [exchange]) =
      responder.next (responder.after state before) exchange := by
  simp [after]

theorem isRun_append :
    responder.IsRun state (before ++ later) ↔
      responder.IsRun state before ∧ responder.IsRun (responder.after state before) later := by
  induction before generalizing state with
  | nil => simp [IsRun]
  | cons first before ih => simp [IsRun, ih, after, and_assoc]

theorem IsRun.answer_eq (run : responder.IsRun state (before ++ exchange :: later)) :
    exchange.answer =
      (responder (responder.after state before) exchange.time exchange.call).2 :=
  (isRun_append.1 run).2.1

theorem IsRun.of_append (run : responder.IsRun state (before ++ later)) :
    responder.IsRun state before :=
  (isRun_append.1 run).1

end Responder

/-! ## The clock -/

theorem Instant.day_le {one two : Instant} (order : one.millis ≤ two.millis) : one.day ≤ two.day :=
  Int.ediv_le_ediv (by decide) order

def Steady {Call Answer : Type} (opened : Instant) (log : List (Exchange Call Answer)) : Prop :=
  (opened.millis :: log.map (·.time.millis)).Pairwise (· ≤ ·)

instance {Call Answer : Type} (opened : Instant) (log : List (Exchange Call Answer)) :
    Decidable (Steady opened log) :=
  inferInstanceAs (Decidable (List.Pairwise _ _))

namespace Steady

variable {Call Answer : Type} {opened : Instant} {exchange : Exchange Call Answer}
  {before later : List (Exchange Call Answer)}

theorem of_append (steady : Steady opened (before ++ later)) : Steady opened before := by
  unfold Steady at steady ⊢
  rw [List.map_append, ← List.cons_append] at steady
  exact (List.pairwise_append.1 steady).1

theorem take (steady : Steady opened before) (count : Nat) : Steady opened (before.take count) :=
  Steady.of_append (List.take_append_drop count before ▸ steady)

theorem opened_le (steady : Steady opened before) (member : exchange ∈ before) :
    opened.millis ≤ exchange.time.millis :=
  List.rel_of_pairwise_cons steady (List.mem_map_of_mem member)

theorem le_of_mem (steady : Steady opened (before ++ exchange :: later))
    {earlier : Exchange Call Answer} (member : earlier ∈ before) :
    earlier.time.millis ≤ exchange.time.millis := by
  have ordered := steady.of_cons
  rw [List.map_append, List.pairwise_append] at ordered
  exact ordered.2.2 _ (List.mem_map_of_mem member) _ (by simp)

theorem le_of_lt (steady : Steady opened before) {one two : Nat}
    {left right : Exchange Call Answer} (first : before[one]? = some left)
    (second : before[two]? = some right) (order : one < two) :
    left.time.millis ≤ right.time.millis := by
  obtain ⟨inFirst, rfl⟩ := List.getElem?_eq_some_iff.1 first
  obtain ⟨inSecond, rfl⟩ := List.getElem?_eq_some_iff.1 second
  have ordered := List.pairwise_iff_getElem.1 steady.of_cons one two
    (by simpa using inFirst) (by simpa using inSecond) order
  simpa using ordered

theorem uncons (steady : Steady opened (exchange :: later)) :
    opened.millis ≤ exchange.time.millis ∧ Steady exchange.time later :=
  ⟨steady.opened_le List.mem_cons_self, List.Pairwise.of_cons steady⟩

end Steady

/-! ## Simulation -/

/-- Two responders that answer alike from related states, at every instant that is in range. Related
states stay related while time passes and when both answer a call. -/
structure Simulation {State Model Call Answer : Type} (responder : Responder State Call Answer)
    (model : Responder Model Call Answer) (InRange : Instant → Prop)
    (Related : Instant → State → Model → Prop) : Prop where
  wait : ∀ {now later left right}, Related now left right → now.millis ≤ later.millis →
    Related later left right
  step : ∀ {now left right} call, InRange now → Related now left right →
    (responder left now call).2 = (model right now call).2 ∧
      Related now (responder left now call).1 (model right now call).1

namespace Simulation

variable {State Model Call Answer : Type} {responder : Responder State Call Answer}
  {model : Responder Model Call Answer} {InRange : Instant → Prop}
  {Related : Instant → State → Model → Prop} {opened : Instant} {left : State} {right : Model}
  {log : List (Exchange Call Answer)}

theorem isRun_iff (simulation : Simulation responder model InRange Related)
    (related : Related opened left right) (steady : Steady opened log)
    (inRange : ∀ exchange ∈ log, InRange exchange.time) :
    responder.IsRun left log ↔ model.IsRun right log := by
  induction log generalizing opened left right with
  | nil => exact Iff.rfl
  | cons exchange later ih =>
      obtain ⟨order, steady⟩ := steady.uncons
      obtain ⟨inRange, laterInRange⟩ := List.forall_mem_cons.1 inRange
      obtain ⟨sameAnswer, related⟩ :=
        simulation.step exchange.call inRange (simulation.wait related order)
      rw [Responder.IsRun, Responder.IsRun, sameAnswer]
      exact and_congr_right fun _ => ih related steady laterInRange

theorem related_after (simulation : Simulation responder model InRange Related)
    (related : Related opened left right) (steady : Steady opened log)
    (inRange : ∀ exchange ∈ log, InRange exchange.time) {now : Instant}
    (order : opened.millis ≤ now.millis) (past : ∀ exchange ∈ log, exchange.time.millis ≤ now.millis) :
    Related now (responder.after left log) (model.after right log) := by
  induction log generalizing opened left right with
  | nil => exact simulation.wait related order
  | cons exchange later ih =>
      obtain ⟨isLater, steady⟩ := steady.uncons
      obtain ⟨inRange, laterInRange⟩ := List.forall_mem_cons.1 inRange
      obtain ⟨order, past⟩ := List.forall_mem_cons.1 past
      obtain ⟨-, related⟩ :=
        simulation.step exchange.call inRange (simulation.wait related isLater)
      exact ih related steady laterInRange order past

end Simulation

end WalletPolicy

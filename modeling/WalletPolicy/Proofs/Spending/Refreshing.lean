import WalletPolicy.Proofs.Spending.Answers

namespace WalletPolicy

theorem Instant.hourBefore_le {now later : Instant}
    (roomy : earliestMillis + hourMillis ≤ now.millis) (order : now.millis ≤ later.millis) :
    (now.laterOrSame (-hourMillis)).millis ≤ (later.laterOrSame (-hourMillis)).millis := by
  rw [millis_laterOrSame_neg (by decide) roomy,
    millis_laterOrSame_neg (by decide) (Int.le_trans roomy order)]
  exact Int.sub_le_sub_right order hourMillis

namespace Tracker

variable {tracker : Tracker} {now later : Instant} {native stablecoin : UInt64} {profile : Profile}

/-! ## Refreshing twice -/

theorem rollOver_rollOver (order : now.day ≤ later.day) :
    (tracker.rollOver now).rollOver later = tracker.rollOver later := by
  unfold rollOver
  split
  · rename_i newDay
    rw [if_pos (Int.lt_of_lt_of_le newDay order)]
    split
    · rfl
    · rename_i sameDay
      rw [Int.le_antisymm order (Int.not_lt.1 sameDay)]
  · rfl

theorem day_prune : (tracker.prune now).day = tracker.day := rfl

theorem rollOver_prune : (tracker.prune now).rollOver later = (tracker.rollOver later).prune now := by
  unfold rollOver
  rw [day_prune]
  split <;> rfl

theorem prune_prune
    (order : (now.laterOrSame (-hourMillis)).millis ≤ (later.laterOrSame (-hourMillis)).millis) :
    (tracker.prune now).prune later = tracker.prune later := by
  simp only [prune, List.filter_filter]
  congr 1
  refine List.filter_congr fun time _ => ?_
  rw [Bool.and_eq_left_iff_imp, decide_eq_true_iff, decide_eq_true_iff]
  exact Int.lt_of_le_of_lt order

theorem refresh_refresh_of_le (days : now.day ≤ later.day)
    (order : (now.laterOrSame (-hourMillis)).millis ≤ (later.laterOrSame (-hourMillis)).millis) :
    (tracker.refresh now).refresh later = tracker.refresh later := by
  rw [refresh, refresh, rollOver_prune, rollOver_rollOver days, prune_prune order, refresh]

@[simp] theorem refresh_same : (tracker.refresh now).refresh now = tracker.refresh now :=
  refresh_refresh_of_le (Int.le_refl _) (Int.le_refl _)

theorem refresh_refresh (roomy : earliestMillis + hourMillis ≤ now.millis)
    (order : now.millis ≤ later.millis) :
    (tracker.refresh now).refresh later = tracker.refresh later :=
  refresh_refresh_of_le (Instant.day_le order) (Instant.hourBefore_le roomy order)

theorem rollOver_refresh : (tracker.refresh now).rollOver now = (tracker.rollOver now).prune now := by
  rw [refresh, rollOver_prune, rollOver_rollOver (Int.le_refl _)]

theorem record_refresh :
    (tracker.refresh now).record now native stablecoin = tracker.record now native stablecoin := by
  simp only [record, rollOver_refresh, prune, List.filter_cons, List.filter_filter, Bool.and_self]

theorem budgets_refresh : (tracker.refresh now).budgets now profile = tracker.budgets now profile := by
  rw [budgets_eq_rollOver, rollOver_refresh, budgets_eq_rollOver, prune]

/-! ## Looks -/

/-- Whether an operation at an instant sees a tracker only as a refresh leaves it, and changes nothing
that a refresh at that instant would not. -/
def Looks {Answer : Type} (now : Instant) (operation : Tracker → Tracker × Answer) : Prop :=
  ∀ tracker, (operation tracker).1.refresh now = tracker.refresh now ∧
    (operation (tracker.refresh now)).2 = (operation tracker).2

theorem looks_const {Answer : Type} (answer : Answer) : Looks now fun tracker => (tracker, answer) :=
  fun _ => ⟨rfl, rfl⟩

theorem looks_check (now : Instant) (native stablecoin : UInt64) (profile : Profile) :
    Looks now fun tracker => tracker.check now native stablecoin profile :=
  fun tracker => ⟨refresh_same, by simp only [check, refresh_same]⟩

theorem looks_snapshot (now : Instant) : Looks now fun tracker => tracker.snapshot now :=
  fun tracker => ⟨refresh_same, by simp only [snapshot, refresh_same]⟩

namespace Looks

variable {Answer Other : Type} {operation : Tracker → Tracker × Answer}

theorem answer_eq_of_refresh_eq (looks : Looks now operation) {left right : Tracker}
    (alike : left.refresh now = right.refresh now) : (operation left).2 = (operation right).2 := by
  rw [← (looks left).2, ← (looks right).2, alike]

theorem map (looks : Looks now operation) (report : Answer → Other) :
    Looks now fun tracker => ((operation tracker).1, report (operation tracker).2) :=
  fun tracker => ⟨(looks tracker).1, congrArg report (looks tracker).2⟩

theorem bind (first : Looks now operation) {second : Answer → Tracker → Tracker × Other}
    (others : ∀ answer, Looks now (second answer)) :
    Looks now fun tracker => second (operation tracker).2 (operation tracker).1 := by
  intro tracker
  obtain ⟨refreshed, sameAnswer⟩ := first tracker
  constructor
  · exact ((others _) _).1.trans refreshed
  · dsimp only
    rw [sameAnswer]
    -- What the first look leaves behind may differ, but a refresh makes it the same.
    refine (others _).answer_eq_of_refresh_eq ?_
    rw [(first _).1, refresh_same, refreshed]

end Looks

end Tracker

end WalletPolicy

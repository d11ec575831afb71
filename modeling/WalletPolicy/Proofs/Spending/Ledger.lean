import Mathlib
import WalletPolicy.Proofs.Runs
import WalletPolicy.Spending.Tracker

/-!
# The ledger behind a tracker

A ledger keeps every transaction and has no days. `Tracker.Follows` says what a tracker still knows
of it, and holds on a clock that never goes back (`Tracker.follows_after`).
-/

namespace WalletPolicy

/-! ## Ledgers -/

structure SpendRecord where
  time : Instant
  native : UInt64
  stablecoin : UInt64
  deriving DecidableEq

abbrev Ledger := List SpendRecord

namespace Ledger

def tally (ledger : Ledger) (window : SpendRecord → Bool) (amount : SpendRecord → Nat) : Nat :=
  ((ledger.filter window).map amount).sum

def totalOn (ledger : Ledger) (amount : SpendRecord → UInt64) (day : Day) : Nat :=
  ledger.tally (fun entry => entry.time.day = day) fun entry => (amount entry).toNat

def countAfter (ledger : Ledger) (cutoff : Int) : Nat :=
  ledger.countP fun entry => cutoff < entry.time.millis

structure Allows (ledger : Ledger) (now : Instant) (native stablecoin : UInt64)
    (profile : Profile) : Prop where
  perTxNative : native ≤ profile.perTxNativeCap
  perTxStablecoin : stablecoin ≤ profile.perTxStablecoinCap
  dailyNative : min (native.toNat + ledger.totalOn (·.native) now.day) Amount.greatest ≤
    profile.dailyNativeCap.toNat
  dailyStablecoin : min (stablecoin.toNat + ledger.totalOn (·.stablecoin) now.day) Amount.greatest ≤
    profile.dailyStablecoinCap.toNat
  hourlyRate : ledger.countAfter (now.millis - hourMillis) < profile.maxTxPerHour.toNat
  cooldown : ∀ last ∈ ledger.getLast?, Tracker.cooldownMillis profile ≤ now.since last.time

variable {ledger later : Ledger} {entry : SpendRecord} {amount : SpendRecord → UInt64} {day : Day}

theorem tally_append {window : SpendRecord → Bool} {amount : SpendRecord → Nat} :
    (ledger ++ later).tally window amount =
      ledger.tally window amount + later.tally window amount := by
  simp [tally]

theorem tally_singleton {window : SpendRecord → Bool} {amount : SpendRecord → Nat} :
    tally [entry] window amount = if window entry then amount entry else 0 := by
  unfold tally
  cases shown : window entry <;> simp [shown]

theorem tally_eq_zero {window : SpendRecord → Bool} {amount : SpendRecord → Nat}
    (outside : ∀ entry ∈ ledger, window entry = false) : ledger.tally window amount = 0 := by
  rw [tally, List.filter_eq_nil_iff.2 (by simpa using outside)]
  rfl

theorem tally_one {window : SpendRecord → Bool} :
    ledger.tally window (fun _ => 1) = ledger.countP window := by
  simp [tally, List.countP_eq_length_filter]

theorem totalOn_snoc :
    (ledger ++ [entry]).totalOn amount day =
      ledger.totalOn amount day + if entry.time.day = day then (amount entry).toNat else 0 := by
  simp [totalOn, tally_append, tally_singleton]

theorem totalOn_eq_zero (earlier : ∀ entry ∈ ledger, entry.time.day < day) :
    ledger.totalOn amount day = 0 := by
  refine tally_eq_zero fun entry member => ?_
  simpa using Int.ne_of_lt (earlier entry member)

end Ledger

/-! ## Runs of a tracker -/

inductive SpendingCall where
  | check (native stablecoin : UInt64) (profile : Profile)
  | record (native stablecoin : UInt64)
  | snapshot
  | budgets (profile : Profile)
  deriving DecidableEq

inductive SpendingAnswer where
  | checked (result : SpendCheck)
  | recorded
  | figures (snapshot : SpendingSnapshot)
  | left (budgets : Budgets)
  deriving DecidableEq

abbrev SpendingExchange := Exchange SpendingCall SpendingAnswer

def Exchange.record? (exchange : SpendingExchange) : Option SpendRecord :=
  match exchange.call with
  | .record native stablecoin => some ⟨exchange.time, native, stablecoin⟩
  | _ => none

theorem Exchange.record?_eq_some_iff {exchange : SpendingExchange} {entry : SpendRecord} :
    exchange.record? = some entry ↔
      exchange.time = entry.time ∧ exchange.call = .record entry.native entry.stablecoin := by
  unfold record?
  cases entry
  cases exchange.call <;> simp

def ledger (log : List SpendingExchange) : Ledger := log.filterMap Exchange.record?

theorem ledger_append {before later : List SpendingExchange} :
    ledger (before ++ later) = ledger before ++ ledger later :=
  List.filterMap_append

theorem ledger_snoc {before : List SpendingExchange} {exchange : SpendingExchange} :
    ledger (before ++ [exchange]) = ledger before ++ exchange.record?.toList :=
  ledger_append

theorem time_le_of_getLast? {opened : Instant} {log : List SpendingExchange}
    {entry last : SpendRecord} (steady : Steady opened log) (member : entry ∈ ledger log)
    (isLast : (ledger log).getLast? = some last) : entry.time.millis ≤ last.time.millis := by
  have sorted : (ledger log).Pairwise fun one two => one.time.millis ≤ two.time.millis := by
    refine List.pairwise_filterMap.2 ((List.pairwise_map.1 steady.of_cons).imp ?_)
    intro one two order first isFirst second isSecond
    rwa [← (Exchange.record?_eq_some_iff.1 isFirst).1, ← (Exchange.record?_eq_some_iff.1 isSecond).1]
  obtain ⟨earlier, split⟩ := List.getLast?_eq_some_iff.1 isLast
  rw [split] at sorted member
  rcases List.mem_append.1 member with isEarlier | isLast
  · exact (List.pairwise_append.1 sorted).2.2 entry isEarlier last (List.mem_singleton_self _)
  · exact Int.le_of_eq (congrArg (·.time.millis) (List.mem_singleton.1 isLast))

namespace Tracker

def respond : Responder Tracker SpendingCall SpendingAnswer := fun tracker now call =>
  match call with
  | .check native stablecoin profile =>
    let (tracker, result) := tracker.check now native stablecoin profile
    (tracker, .checked result)
  | .record native stablecoin => (tracker.record now native stablecoin, .recorded)
  | .snapshot =>
    let (tracker, snapshot) := tracker.snapshot now
    (tracker, .figures snapshot)
  | .budgets profile => (tracker, .left (tracker.budgets now profile))

structure Follows (tracker : Tracker) (ledger : Ledger) (now : Instant) : Prop where
  day_le : tracker.day ≤ now.day
  settled : ∀ entry ∈ ledger, entry.time.day ≤ tracker.day
  native : tracker.nativeSpent.toNat =
    min (ledger.totalOn (·.native) tracker.day) Amount.greatest
  stablecoin : tracker.stablecoinSpent.toNat =
    min (ledger.totalOn (·.stablecoin) tracker.day) Amount.greatest
  recent : ∀ cutoff, now.millis - hourMillis ≤ cutoff →
    tracker.recent.countP (fun time => cutoff < time.millis) = ledger.countAfter cutoff
  lastTx : tracker.lastTx = ledger.getLast?.map (·.time)

variable {tracker : Tracker} {ledger : Ledger} {now : Instant} {native stablecoin : UInt64}
  {profile : Profile}

/-! ## What each operation keeps -/

theorem rollOver_day : (tracker.rollOver now).day = max tracker.day now.day := by
  unfold rollOver
  split
  · rename_i newDay
    exact (Int.max_eq_right (Int.le_of_lt newDay)).symm
  · rename_i sameDay
    exact (Int.max_eq_left (Int.not_lt.1 sameDay)).symm

@[simp] theorem rollOver_recent : (tracker.rollOver now).recent = tracker.recent := by
  unfold rollOver
  split <;> rfl

theorem prune_eq (roomy : earliestMillis + hourMillis ≤ now.millis) :
    tracker.prune now = { tracker with
      recent := tracker.recent.filter fun time => now.millis - hourMillis < time.millis } := by
  rw [prune, Instant.millis_laterOrSame_neg (by decide) roomy]

theorem follows_start (opened : Instant) : (start opened).Follows [] opened where
  day_le := Int.le_refl _
  settled := by simp
  native := rfl
  stablecoin := rfl
  recent := by simp [start, Ledger.countAfter]
  lastTx := rfl

namespace Follows

theorem wait {later : Instant} (follows : tracker.Follows ledger now)
    (order : now.millis ≤ later.millis) : tracker.Follows ledger later where
  day_le := Int.le_trans follows.day_le (Instant.day_le order)
  settled := follows.settled
  native := follows.native
  stablecoin := follows.stablecoin
  recent cutoff bound := follows.recent cutoff (by omega)
  lastTx := follows.lastTx

theorem rollOver_day (follows : tracker.Follows ledger now) :
    (tracker.rollOver now).day = now.day := by
  rw [Tracker.rollOver_day]
  exact Int.max_eq_right follows.day_le

theorem rollOver (follows : tracker.Follows ledger now) :
    (tracker.rollOver now).Follows ledger now := by
  by_cases newDay : tracker.day < now.day
  · -- Every record is of an earlier day, so the ledger's totals are zero as well.
    have earlier : ∀ entry ∈ ledger, entry.time.day < now.day := fun entry member =>
      Int.lt_of_le_of_lt (follows.settled entry member) newDay
    rw [Tracker.rollOver, if_pos newDay]
    exact {
      day_le := Int.le_refl _
      settled := fun entry member => Int.le_of_lt (earlier entry member)
      native := by simp [Ledger.totalOn_eq_zero earlier]
      stablecoin := by simp [Ledger.totalOn_eq_zero earlier]
      recent := follows.recent
      lastTx := follows.lastTx }
  · rw [Tracker.rollOver, if_neg newDay]
    exact follows

theorem prune (follows : tracker.Follows ledger now)
    (roomy : earliestMillis + hourMillis ≤ now.millis) :
    (tracker.prune now).Follows ledger now := by
  rw [prune_eq roomy]
  refine { follows with recent := fun cutoff bound => ?_ }
  rw [← follows.recent cutoff bound, List.countP_filter]
  refine List.countP_congr fun time _ => ?_
  simp only [Bool.and_eq_true, decide_eq_true_eq]
  omega

theorem refresh (follows : tracker.Follows ledger now)
    (roomy : earliestMillis + hourMillis ≤ now.millis) :
    (tracker.refresh now).Follows ledger now :=
  follows.rollOver.prune roomy

theorem refresh_day (follows : tracker.Follows ledger now)
    (roomy : earliestMillis + hourMillis ≤ now.millis) : (tracker.refresh now).day = now.day := by
  rw [Tracker.refresh, prune_eq roomy]
  exact follows.rollOver_day

theorem refresh_recent_length (follows : tracker.Follows ledger now)
    (roomy : earliestMillis + hourMillis ≤ now.millis) :
    (tracker.refresh now).recent.length = ledger.countAfter (now.millis - hourMillis) := by
  rw [Tracker.refresh, prune_eq roomy, ← follows.recent _ (Int.le_refl _), rollOver_recent]
  exact List.countP_eq_length_filter.symm

theorem record (follows : tracker.Follows ledger now)
    (roomy : earliestMillis + hourMillis ≤ now.millis) :
    (tracker.record now native stablecoin).Follows (ledger ++ [⟨now, native, stablecoin⟩]) now := by
  have today := follows.rollOver_day
  have rolled := follows.rollOver
  refine Follows.prune ?_ roomy
  exact {
    day_le := rolled.day_le
    settled := by
      simp only [List.forall_mem_append, List.forall_mem_singleton]
      exact ⟨rolled.settled, Int.le_of_eq today.symm⟩
    native := by
      simp only [Amount.toNat_add, rolled.native, Ledger.totalOn_snoc, today, if_true]
      omega
    stablecoin := by
      simp only [Amount.toNat_add, rolled.stablecoin, Ledger.totalOn_snoc, today, if_true]
      omega
    recent := fun cutoff bound => by
      have counted := rolled.recent cutoff bound
      simp only [Ledger.countAfter] at counted ⊢
      rw [List.countP_cons, List.countP_append, List.countP_singleton, counted]
    lastTx := by simp }

theorem next (follows : tracker.Follows ledger now)
    (roomy : earliestMillis + hourMillis ≤ now.millis) {exchange : SpendingExchange}
    (atNow : exchange.time = now) :
    (respond.next tracker exchange).Follows (ledger ++ exchange.record?.toList) now := by
  subst atNow
  unfold Responder.next Exchange.record?
  cases exchange.call with
  | check native stablecoin profile => simpa [respond, check] using follows.refresh roomy
  | record native stablecoin => exact follows.record roomy
  | snapshot => simpa [respond, snapshot] using follows.refresh roomy
  | budgets profile => simpa [respond] using follows

end Follows

theorem follows_after {opened now : Instant} {log : List SpendingExchange}
    (steady : Steady opened log)
    (roomy : ∀ exchange ∈ log, earliestMillis + hourMillis ≤ exchange.time.millis)
    (afterOpening : opened.millis ≤ now.millis)
    (afterLog : ∀ exchange ∈ log, exchange.time.millis ≤ now.millis) :
    (respond.after (start opened) log).Follows (WalletPolicy.ledger log) now := by
  induction log using List.reverseRecOn generalizing now with
  | nil => exact (follows_start opened).wait afterOpening
  | append_singleton earlier exchange ih =>
      simp only [List.forall_mem_append, List.forall_mem_singleton] at roomy afterLog
      have before := ih steady.of_append roomy.1
        (steady.opened_le (List.mem_append_right _ (List.mem_singleton_self _)))
        fun _ member => steady.le_of_mem member
      rw [Responder.after_append_singleton, ledger_snoc]
      exact (before.next roomy.2 rfl).wait afterLog.2

/-! ## Checks -/

theorem cooldownLeft?_eq_none_iff :
    tracker.cooldownLeft? now profile = none ↔
      ∀ last ∈ tracker.lastTx, cooldownMillis profile ≤ now.since last := by
  unfold cooldownLeft?
  cases tracker.lastTx with
  | none => simp
  | some last =>
      simp only [Option.mem_def, Option.some.injEq, forall_eq']
      split <;> rename_i left <;> simp <;> omega

theorem judge_eq_allowed_iff :
    tracker.judge now native stablecoin profile = .allowed ↔
      native ≤ profile.perTxNativeCap ∧ stablecoin ≤ profile.perTxStablecoinCap ∧
        Amount.add tracker.nativeSpent native ≤ profile.dailyNativeCap ∧
        Amount.add tracker.stablecoinSpent stablecoin ≤ profile.dailyStablecoinCap ∧
        tracker.recent.length < profile.maxTxPerHour.toNat ∧
        ∀ last ∈ tracker.lastTx, cooldownMillis profile ≤ now.since last := by
  rw [← cooldownLeft?_eq_none_iff]
  unfold judge
  simp only [← UInt64.not_lt, ← Nat.not_le]
  repeat' split
  all_goals simp_all

theorem Follows.check_eq_allowed_iff (follows : tracker.Follows ledger now)
    (roomy : earliestMillis + hourMillis ≤ now.millis) :
    (tracker.check now native stablecoin profile).2 = .allowed ↔
      ledger.Allows now native stablecoin profile := by
  have fresh := follows.refresh roomy
  have today := follows.refresh_day roomy
  have dailyNative : (Amount.add (tracker.refresh now).nativeSpent native).toNat =
      min (native.toNat + ledger.totalOn (·.native) now.day) Amount.greatest := by
    rw [Amount.toNat_add, fresh.native, today]
    omega
  have dailyStablecoin : (Amount.add (tracker.refresh now).stablecoinSpent stablecoin).toNat =
      min (stablecoin.toNat + ledger.totalOn (·.stablecoin) now.day) Amount.greatest := by
    rw [Amount.toNat_add, fresh.stablecoin, today]
    omega
  rw [check, judge_eq_allowed_iff, follows.refresh_recent_length roomy, fresh.lastTx,
    UInt64.le_iff_toNat_le (a := Amount.add _ native), dailyNative,
    UInt64.le_iff_toNat_le (a := Amount.add _ stablecoin), dailyStablecoin, Option.forall_mem_map]
  constructor
  · rintro ⟨perTxNative, perTxStablecoin, dailyNative, dailyStablecoin, hourlyRate, cooldown⟩
    exact ⟨perTxNative, perTxStablecoin, dailyNative, dailyStablecoin, hourlyRate, cooldown⟩
  · intro h
    exact ⟨h.perTxNative, h.perTxStablecoin, h.dailyNative, h.dailyStablecoin, h.hourlyRate,
      h.cooldown⟩

end Tracker

end WalletPolicy

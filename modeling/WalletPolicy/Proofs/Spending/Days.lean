import WalletPolicy.Proofs.Spending.Ledger

/-!
# Days of a clock that jumps

The totals of a tracker belong to the latest day on which it was used. What is recorded once that
day is reached counts against it, also under an earlier date.
-/

namespace WalletPolicy

/-! ## Two assets -/

inductive Asset where
  | native
  | stablecoin

namespace Asset

def amount : Asset → SpendRecord → UInt64
  | native => (·.native)
  | stablecoin => (·.stablecoin)

def spent : Asset → Tracker → UInt64
  | native => (·.nativeSpent)
  | stablecoin => (·.stablecoinSpent)

def dailyCap : Asset → Profile → UInt64
  | native => (·.dailyNativeCap)
  | stablecoin => (·.dailyStablecoinCap)

def budget : Asset → Budgets → UInt64
  | native => (·.native)
  | stablecoin => (·.stablecoin)

end Asset

def Ledger.total (ledger : Ledger) (asset : Asset) : Nat :=
  (ledger.map fun entry => (asset.amount entry).toNat).sum

/-! ## Days of use -/

def SpendingCall.isUse : SpendingCall → Bool
  | .budgets _ => false
  | _ => true

def Exchange.reaches (exchange : SpendingExchange) (day : Day) : Bool :=
  exchange.call.isUse && day ≤ exchange.time.day

def daysOfUse (opened : Instant) (log : List SpendingExchange) : List Day :=
  opened.day :: (log.filter (·.call.isUse)).map (·.time.day)

/-- The part of a log since a day was first reached, with the exchange that reached it. -/
def sinceReached (opened : Instant) (log : List SpendingExchange) (day : Day) :
    List SpendingExchange :=
  if day ≤ opened.day then log else log.dropWhile fun exchange => !exchange.reaches day

variable {opened : Instant} {log : List SpendingExchange} {exchange : SpendingExchange} {day : Day}

theorem mem_daysOfUse_iff :
    day ∈ daysOfUse opened log ↔
      day = opened.day ∨ ∃ exchange ∈ log, exchange.call.isUse ∧ exchange.time.day = day := by
  simp [daysOfUse, and_assoc]

theorem mem_daysOfUse_snoc_iff :
    day ∈ daysOfUse opened (log ++ [exchange]) ↔
      day ∈ daysOfUse opened log ∨ (exchange.call.isUse ∧ exchange.time.day = day) := by
  simp only [mem_daysOfUse_iff, List.mem_append, List.mem_singleton, or_and_right, exists_or,
    exists_eq_left, or_assoc]

theorem sinceReached_snoc (reached : day ∈ daysOfUse opened log) :
    sinceReached opened (log ++ [exchange]) day = sinceReached opened log day ++ [exchange] := by
  unfold sinceReached
  split
  · rfl
  · rename_i later
    rw [List.dropWhile_append, if_neg]
    rw [List.isEmpty_iff, List.dropWhile_eq_nil_iff]
    intro none
    rcases mem_daysOfUse_iff.1 reached with same | ⟨use, member, isUse, same⟩
    · exact later (Int.le_of_eq same)
    · simpa [Exchange.reaches, isUse, same] using none use member

theorem sinceReached_first (earlier : ∀ before ∈ daysOfUse opened log, before < day)
    (reaches : exchange.reaches day) :
    sinceReached opened (log ++ [exchange]) day = [exchange] := by
  have unopened : ¬ day ≤ opened.day := Int.not_le.2 (earlier _ (mem_daysOfUse_iff.2 (.inl rfl)))
  have unreached : log.dropWhile (fun use => !use.reaches day) = [] := by
    rw [List.dropWhile_eq_nil_iff]
    intro use member
    simp only [Exchange.reaches, Bool.not_and, Bool.or_eq_true, Bool.not_eq_true',
      decide_eq_false_iff_not, Int.not_le]
    cases isUse : use.call.isUse with
    | false => exact .inl rfl
    | true => exact .inr (earlier _ (mem_daysOfUse_iff.2 (.inr ⟨use, member, isUse, rfl⟩)))
  rw [sinceReached, if_neg unopened, List.dropWhile_append, unreached]
  simp [reaches]

theorem Amount.min_toNat (amount : UInt64) : min amount.toNat Amount.greatest = amount.toNat :=
  Nat.min_eq_left (Nat.le_sub_one_of_lt amount.toNat_lt_size)

namespace Ledger

variable {ledger later : Ledger} {asset : Asset}

theorem total_append : (ledger ++ later).total asset = ledger.total asset + later.total asset := by
  simp [total]

end Ledger

namespace Tracker

variable {tracker later latest : Tracker} {now : Instant} {profile : Profile} {asset : Asset}

/-! ## One exchange -/

def isMovedBy (tracker : Tracker) (exchange : SpendingExchange) : Bool :=
  exchange.call.isUse && tracker.day < exchange.time.day

theorem spent_rollOver :
    (asset.spent (tracker.rollOver now)).toNat =
      if tracker.day < now.day then 0 else (asset.spent tracker).toNat := by
  unfold rollOver
  split <;> cases asset <;> rfl

theorem spent_prune : asset.spent (tracker.prune now) = asset.spent tracker := by
  cases asset <;> rfl

theorem day_next :
    (respond.next tracker exchange).day =
      if tracker.isMovedBy exchange then exchange.time.day else tracker.day := by
  have rolled : (tracker.rollOver exchange.time).day =
      if tracker.day < exchange.time.day then exchange.time.day else tracker.day := by
    unfold rollOver
    split <;> rfl
  unfold Responder.next isMovedBy
  cases exchange.call with
  | budgets => rfl
  | _ =>
      simp only [SpendingCall.isUse, Bool.true_and, decide_eq_true_eq]
      exact rolled

theorem spent_next :
    (asset.spent (respond.next tracker exchange)).toNat =
      min ((if tracker.isMovedBy exchange then 0 else (asset.spent tracker).toNat) +
        Ledger.total exchange.record?.toList asset) Amount.greatest := by
  have rolled : (asset.spent (tracker.rollOver exchange.time)).toNat =
      if tracker.day < exchange.time.day then 0 else (asset.spent tracker).toNat := spent_rollOver
  unfold Responder.next isMovedBy Exchange.record?
  cases exchange.call with
  | budgets => exact (Amount.min_toNat _).symm
  | record native stablecoin =>
      simp only [SpendingCall.isUse, Bool.true_and, decide_eq_true_eq, ← rolled, respond, record,
        spent_prune]
      cases asset <;> simp [Asset.spent, Asset.amount, Ledger.total]
  | _ =>
      simp only [SpendingCall.isUse, Bool.true_and, decide_eq_true_eq, ← rolled, respond, check,
        snapshot, refresh, spent_prune]
      exact (Amount.min_toNat _).symm

/-! ## The day of a tracker -/

structure Accounts (tracker : Tracker) (opened : Instant) (log : List SpendingExchange) : Prop where
  day : IsGreatest {day | day ∈ daysOfUse opened log} tracker.day
  spent : ∀ asset, (asset.spent tracker).toNat =
    min ((ledger (sinceReached opened log tracker.day)).total asset) Amount.greatest

theorem accounts_start (opened : Instant) : (start opened).Accounts opened [] where
  day := by simp [daysOfUse, start]
  spent asset := by cases asset <;> simp [start, Asset.spent, sinceReached, ledger, Ledger.total]

theorem isMovedBy_iff :
    tracker.isMovedBy exchange ↔ exchange.call.isUse ∧ tracker.day < exchange.time.day := by
  simp [isMovedBy]

namespace Accounts

theorem next_of_moved (accounts : tracker.Accounts opened log)
    (moved : tracker.isMovedBy exchange) :
    (respond.next tracker exchange).Accounts opened (log ++ [exchange]) := by
  obtain ⟨isUse, later⟩ := isMovedBy_iff.1 moved
  have earlier : ∀ before ∈ daysOfUse opened log, before < exchange.time.day :=
    fun before member => Int.lt_of_le_of_lt (accounts.day.2 member) later
  have newDay : (respond.next tracker exchange).day = exchange.time.day := by rw [day_next, if_pos moved]
  have reaches : exchange.reaches exchange.time.day := by simp [Exchange.reaches, isUse]
  constructor
  · rw [newDay]
    refine ⟨mem_daysOfUse_snoc_iff.2 (.inr ⟨isUse, rfl⟩), fun day member => ?_⟩
    rcases mem_daysOfUse_snoc_iff.1 member with before | ⟨-, same⟩
    · exact Int.le_of_lt (earlier day before)
    · exact Int.le_of_eq same.symm
  · intro asset
    -- The exchange that reaches the day is the first that counts.
    have alone : ledger ([] ++ [exchange]) = exchange.record?.toList := ledger_snoc
    rw [newDay, sinceReached_first earlier reaches, spent_next, if_pos moved, Nat.zero_add, ← alone,
      List.nil_append]

theorem next_of_unmoved (accounts : tracker.Accounts opened log)
    (unmoved : ¬ tracker.isMovedBy exchange) :
    (respond.next tracker exchange).Accounts opened (log ++ [exchange]) := by
  have sameDay : (respond.next tracker exchange).day = tracker.day := by rw [day_next, if_neg unmoved]
  constructor
  · rw [sameDay]
    refine ⟨mem_daysOfUse_snoc_iff.2 (.inl accounts.day.1), fun day member => ?_⟩
    rcases mem_daysOfUse_snoc_iff.1 member with before | ⟨isUse, same⟩
    · exact accounts.day.2 before
    · exact same ▸ Int.not_lt.1 fun later => unmoved (isMovedBy_iff.2 ⟨isUse, later⟩)
  · intro asset
    rw [sameDay, sinceReached_snoc accounts.day.1, ledger_snoc, Ledger.total_append, spent_next,
      if_neg unmoved, accounts.spent]
    omega

theorem next (accounts : tracker.Accounts opened log) :
    (respond.next tracker exchange).Accounts opened (log ++ [exchange]) := by
  by_cases moved : tracker.isMovedBy exchange
  · exact accounts.next_of_moved moved
  · exact accounts.next_of_unmoved moved

end Accounts

theorem accounts_after : (respond.after (start opened) log).Accounts opened log := by
  induction log using List.reverseRecOn with
  | nil => exact accounts_start opened
  | append_singleton earlier exchange ih =>
      rw [Responder.after_append_singleton]
      exact ih.next

/-! ## Totals of a day -/

structure GrowsTo (tracker later : Tracker) : Prop where
  day_le : tracker.day ≤ later.day
  spent_le : later.day = tracker.day → ∀ asset : Asset, asset.spent tracker ≤ asset.spent later

theorem GrowsTo.trans (first : tracker.GrowsTo later) (second : later.GrowsTo latest) :
    tracker.GrowsTo latest where
  day_le := Int.le_trans first.day_le second.day_le
  spent_le same asset := by
    have sameFirst : later.day = tracker.day :=
      Int.le_antisymm (same ▸ second.day_le) first.day_le
    exact UInt64.le_trans (first.spent_le sameFirst asset)
      (second.spent_le (same.trans sameFirst.symm) asset)

theorem growsTo_next : tracker.GrowsTo (respond.next tracker exchange) := by
  by_cases moved : tracker.isMovedBy exchange
  · have later := (isMovedBy_iff.1 moved).2
    constructor
    · rw [day_next, if_pos moved]
      exact Int.le_of_lt later
    · intro same
      rw [day_next, if_pos moved] at same
      exact absurd same (Int.ne_of_gt later)
  · constructor
    · rw [day_next, if_neg moved]
    · intro _ asset
      have small := Amount.min_toNat (asset.spent tracker)
      rw [UInt64.le_iff_toNat_le, spent_next, if_neg moved]
      omega

theorem growsTo_after : tracker.GrowsTo (respond.after tracker log) := by
  induction log using List.reverseRecOn with
  | nil => exact ⟨Int.le_refl _, fun _ _ => UInt64.le_refl _⟩
  | append_singleton earlier exchange ih =>
      rw [Responder.after_append_singleton]
      exact ih.trans growsTo_next

theorem toNat_budget :
    (asset.budget (tracker.budgets now profile)).toNat =
      (asset.dailyCap profile).toNat -
        if tracker.day < now.day then 0 else (asset.spent tracker).toNat := by
  unfold budgets
  split <;> cases asset <;> simp [Asset.budget, Asset.dailyCap, Asset.spent]

/-- On any clock the day of a tracker is the latest on which it was used, its totals are of what was
recorded since that day was first reached, neither is taken back later, and the budgets of an instant
are what these totals leave, or whole if the instant is of a later day. -/
theorem spent_since_reached (opened : Instant) (log : List SpendingExchange) :
    let tracker := respond.after (start opened) log
    let counted (asset : Asset) : Nat :=
      min ((ledger (sinceReached opened log tracker.day)).total asset) Amount.greatest
    IsGreatest {day | day ∈ daysOfUse opened log} tracker.day ∧
      (∀ asset, (asset.spent tracker).toNat = counted asset) ∧
      (∀ more, tracker.GrowsTo (respond.after tracker more)) ∧
      ∀ now profile asset, (asset.budget (tracker.budgets now profile)).toNat =
        if tracker.day < now.day then (asset.dailyCap profile).toNat
        else (asset.dailyCap profile).toNat - counted asset := by
  intro tracker counted
  have accounts : tracker.Accounts opened log := accounts_after
  refine ⟨accounts.day, accounts.spent, fun more => growsTo_after, fun now profile asset => ?_⟩
  rw [toNat_budget, accounts.spent]
  split <;> rfl

end Tracker

end WalletPolicy

import Mathlib.Algebra.Order.BigOperators.Group.Finset
import Mathlib.Data.Finset.Card
import Mathlib.Data.Finset.Max
import WalletPolicy.Proofs.Spending.Ledger

/-!
# Limits with checks in flight

A check reserves nothing: several checks may be allowed before the first of them is recorded, and a
record may come long after its check. The `k - 1` other checks in flight are all that may come on
top of the limits (`limits_of_backed`).
-/

namespace WalletPolicy

/-! ## Records and their checks -/

def recordAt? (log : List SpendingExchange) (place : Nat) : Option SpendRecord :=
  log[place]?.bind Exchange.record?

def ClearsAt (log : List SpendingExchange) (profile : Profile) (entry : SpendRecord)
    (place : Nat) : Prop :=
  log[place]?.map (fun exchange => (exchange.call, exchange.answer)) =
    some (.check entry.native entry.stablecoin profile, .checked .allowed)

instance (log : List SpendingExchange) (profile : Profile) (entry : SpendRecord) (place : Nat) :
    Decidable (ClearsAt log profile entry place) :=
  inferInstanceAs (Decidable (_ = _))

def awaiting (log : List SpendingExchange) (checkOf : Nat → Nat) (place : Nat) : Finset Nat :=
  (Finset.range place).filter fun check =>
    ∃ record < log.length,
      place ≤ record ∧ (recordAt? log record).isSome = true ∧ checkOf record = check

/-- Each record is made for an earlier check of its own that was allowed, and at most `k` such
checks wait at a time. Places of the log stand for what they hold. -/
structure Backed (log : List SpendingExchange) (profile : Profile) (k : Nat)
    (checkOf : Nat → Nat) : Prop where
  earlier : ∀ place < log.length, (recordAt? log place).isSome = true → checkOf place < place
  cleared : ∀ place < log.length, ∀ entry ∈ recordAt? log place,
    ClearsAt log profile entry (checkOf place)
  own : ∀ one < log.length, ∀ two < log.length, (recordAt? log one).isSome = true →
    (recordAt? log two).isSome = true → checkOf one = checkOf two → one = two
  inFlight : ∀ place ≤ log.length, (awaiting log checkOf place).card ≤ k

def recordsBefore (log : List SpendingExchange) (window : SpendRecord → Bool) (bound : Nat) :
    Finset Nat :=
  (Finset.range bound).filter fun place => (recordAt? log place).any window = true

def weightAt (log : List SpendingExchange) (amount : SpendRecord → Nat) (place : Nat) : Nat :=
  ((recordAt? log place).map amount).getD 0

variable {log : List SpendingExchange} {profile : Profile} {k : Nat} {checkOf : Nat → Nat}
  {window : SpendRecord → Bool} {amount : SpendRecord → Nat} {entry : SpendRecord}

theorem lt_length_of_recordAt? {place : Nat} (record : recordAt? log place = some entry) :
    place < log.length := by
  obtain ⟨exchange, found, -⟩ := Option.bind_eq_some_iff.1 record
  exact (List.getElem?_eq_some_iff.1 found).1

theorem mem_ledger_take {place bound : Nat} (record : recordAt? log place = some entry)
    (before : place < bound) : entry ∈ ledger (log.take bound) := by
  obtain ⟨exchange, found, isRecord⟩ := Option.bind_eq_some_iff.1 record
  refine List.mem_filterMap.2 ⟨exchange, List.mem_of_getElem? (i := place) ?_, isRecord⟩
  rw [List.getElem?_take_of_lt before, found]

theorem mem_recordsBefore {bound place : Nat} :
    place ∈ recordsBefore log window bound ↔
      place < bound ∧ ∃ entry, recordAt? log place = some entry ∧ window entry = true := by
  simp [recordsBefore, Option.any_eq_true]

theorem tally_take_eq_sum (bound : Nat) :
    (ledger (log.take bound)).tally window amount =
      ∑ place ∈ recordsBefore log window bound, weightAt log amount place := by
  unfold recordsBefore
  rw [Finset.sum_filter]
  induction bound with
  | zero => rfl
  | succ bound ih =>
      have step : ledger (log.take (bound + 1)) =
          ledger (log.take bound) ++ (recordAt? log bound).toList := by
        rw [List.take_add_one, ledger_append]
        unfold recordAt?
        cases log[bound]? <;> rfl
      rw [Finset.sum_range_succ, step, Ledger.tally_append, ih]
      congr 1
      unfold weightAt
      cases recordAt? log bound with
      | none => rfl
      | some entry => exact Ledger.tally_singleton

theorem tally_eq_sum :
    (ledger log).tally window amount =
      ∑ place ∈ recordsBefore log window log.length, weightAt log amount place := by
  rw [← tally_take_eq_sum, List.take_length]

/-! ## The latest check -/

/-- Take the record whose check is the latest. The records before that check and this record keep to
the cap together, and every other record was in flight at that check. -/
theorem sum_le_of_latest (checkOf : Nat → Nat) {records : Finset Nat} {weight : Nat → Nat}
    {cap unit : Nat}
    (other : ∀ record ∈ records, checkOf record ∉ records)
    (light : ∀ record ∈ records, weight record ≤ unit)
    (fits : ∀ record ∈ records,
      ∑ earlier ∈ records with earlier < checkOf record, weight earlier + weight record ≤ cap)
    (earlier : ∀ record ∈ records, checkOf record < record)
    (inFlight : ∀ latest ∈ records, (records.filter fun record =>
      checkOf record ≤ checkOf latest ∧ checkOf latest < record).card ≤ k) :
    ∑ record ∈ records, weight record ≤ cap + (k - 1) * unit := by
  rcases records.eq_empty_or_nonempty with rfl | nonempty
  · simp
  obtain ⟨latest, member, isLatest⟩ := records.exists_max_image checkOf nonempty
  let rest := records.filter fun record => ¬ record < checkOf latest
  have latestInRest : latest ∈ rest :=
    Finset.mem_filter.2 ⟨member, Nat.not_lt.2 (earlier latest member).le⟩
  have waiting : rest ⊆ records.filter fun record =>
      checkOf record ≤ checkOf latest ∧ checkOf latest < record := by
    intro record inRest
    obtain ⟨isRecord, notBefore⟩ := Finset.mem_filter.1 inRest
    have different : record ≠ checkOf latest := by
      rintro rfl
      exact other latest member isRecord
    have order := isLatest record isRecord
    exact Finset.mem_filter.2 ⟨isRecord, by omega⟩
  have few : (rest.erase latest).card ≤ k - 1 := by
    rw [Finset.card_erase_of_mem latestInRest]
    exact Nat.sub_le_sub_right ((Finset.card_le_card waiting).trans (inFlight latest member)) 1
  have others : ∑ record ∈ rest.erase latest, weight record ≤ (k - 1) * unit := by
    refine (Finset.sum_le_card_nsmul _ _ unit fun record inOthers => ?_).trans
      (Nat.mul_le_mul_right unit few)
    exact light record (Finset.mem_filter.1 (Finset.mem_of_mem_erase inOthers)).1
  calc ∑ record ∈ records, weight record
      = ∑ record ∈ records with record < checkOf latest, weight record +
          ∑ record ∈ rest, weight record := (Finset.sum_filter_add_sum_filter_not _ _ _).symm
    _ = ∑ record ∈ records with record < checkOf latest, weight record + weight latest +
          ∑ record ∈ rest.erase latest, weight record := by
        rw [← Finset.add_sum_erase rest weight latestInRest, Nat.add_assoc]
    _ ≤ cap + (k - 1) * unit := Nat.add_le_add (fits latest member) others

/-! ## What an allowed check says of a window -/

def FitsWindow (profile : Profile) (window : SpendRecord → Bool) (amount : SpendRecord → Nat)
    (cap unit : Nat) : Prop :=
  ∀ (earlier : Ledger) (now : Instant) (entry : SpendRecord),
    (∀ past ∈ earlier, past.time.millis ≤ now.millis) → now.millis ≤ entry.time.millis →
    earlier.Allows now entry.native entry.stablecoin profile → window entry = true →
    earlier.tally window amount + amount entry ≤ cap ∧ amount entry ≤ unit

theorem totalOn_add_le {earlier : Ledger} {now : Instant} {cap : Nat}
    (asset : SpendRecord → UInt64) (past : ∀ past ∈ earlier, past.time.millis ≤ now.millis)
    (order : now.millis ≤ entry.time.millis) (below : cap < Amount.greatest)
    (daily : min ((asset entry).toNat + earlier.totalOn asset now.day) Amount.greatest ≤ cap) :
    earlier.totalOn asset entry.time.day + (asset entry).toNat ≤ cap := by
  rcases Int.lt_or_eq_of_le (Instant.day_le order) with laterDay | sameDay
  · rw [Ledger.totalOn_eq_zero fun old member =>
      Int.lt_of_le_of_lt (Instant.day_le (past old member)) laterDay]
    omega
  · rw [← sameDay]
    omega

theorem fitsWindow_native (below : profile.dailyNativeCap.toNat < Amount.greatest) (day : Day) :
    FitsWindow profile (fun entry => entry.time.day = day) (fun entry => entry.native.toNat)
      profile.dailyNativeCap.toNat profile.perTxNativeCap.toNat := by
  intro earlier now entry past order allows onDay
  obtain rfl := of_decide_eq_true onDay
  exact ⟨totalOn_add_le (·.native) past order below allows.dailyNative,
    allows.perTxNative⟩

theorem fitsWindow_stablecoin (below : profile.dailyStablecoinCap.toNat < Amount.greatest)
    (day : Day) :
    FitsWindow profile (fun entry => entry.time.day = day) (fun entry => entry.stablecoin.toNat)
      profile.dailyStablecoinCap.toNat profile.perTxStablecoinCap.toNat := by
  intro earlier now entry past order allows onDay
  obtain rfl := of_decide_eq_true onDay
  exact ⟨totalOn_add_le (·.stablecoin) past order below allows.dailyStablecoin,
    allows.perTxStablecoin⟩

theorem fitsWindow_hour (start : Int) :
    FitsWindow profile
      (fun entry => start < entry.time.millis && entry.time.millis ≤ start + hourMillis)
      (fun _ => 1) profile.maxTxPerHour.toNat 1 := by
  intro earlier now entry past order allows inHour
  refine ⟨?_, le_refl 1⟩
  have counted : earlier.tally
      (fun entry => start < entry.time.millis && entry.time.millis ≤ start + hourMillis)
      (fun _ => 1) ≤ earlier.countAfter (now.millis - hourMillis) := by
    rw [Ledger.tally_one]
    refine List.countP_mono_left fun old _ => ?_
    simp only [Bool.and_eq_true, decide_eq_true_eq] at inHour ⊢
    omega
  exact Nat.succ_le_of_lt (counted.trans_lt allows.hourlyRate)

/-! ## Whole runs -/

section Runs

variable {opened : Instant}

theorem recordAt?_ne_some_of_clearsAt {place : Nat} {other : SpendRecord}
    (cleared : ClearsAt log profile entry place) : recordAt? log place ≠ some other := by
  intro recorded
  obtain ⟨check, found, same⟩ := Option.map_eq_some_iff.1 cleared
  obtain ⟨exchange, found', record⟩ := Option.bind_eq_some_iff.1 recorded
  obtain rfl := Option.some.inj (found.symm.trans found')
  have isRecord := (Exchange.record?_eq_some_iff.1 record).2
  rw [(Prod.mk.inj same).1] at isRecord
  cases isRecord

theorem allows_of_clearsAt {place : Nat}
    (run : Tracker.respond.IsRun (.start opened) log) (steady : Steady opened log)
    (roomy : ∀ exchange ∈ log, earliestMillis + hourMillis ≤ exchange.time.millis)
    (cleared : ClearsAt log profile entry place) :
    ∃ check, log[place]? = some check ∧
      (∀ past ∈ ledger (log.take place), past.time.millis ≤ check.time.millis) ∧
      (ledger (log.take place)).Allows check.time entry.native entry.stablecoin profile := by
  obtain ⟨check, found, same⟩ := Option.map_eq_some_iff.1 cleared
  obtain ⟨inLog, isCheck⟩ := List.getElem?_eq_some_iff.1 found
  obtain ⟨call, answer⟩ := Prod.mk.inj same
  have split : log = log.take place ++ check :: log.drop (place + 1) := by
    rw [← isCheck, List.getElem_cons_drop, List.take_append_drop]
  rw [split] at run steady
  have past : ∀ exchange ∈ log.take place, exchange.time.millis ≤ check.time.millis :=
    fun exchange member => steady.le_of_mem member
  have follows := Tracker.follows_after steady.of_append
    (fun exchange member => roomy exchange (List.mem_of_mem_take member))
    (steady.opened_le (by simp)) past
  have allowed := run.answer_eq
  rw [answer, call] at allowed
  refine ⟨check, found, fun entry member => ?_,
    (follows.check_eq_allowed_iff (roomy check (List.mem_of_getElem? found))).1
      (SpendingAnswer.checked.inj allowed).symm⟩
  obtain ⟨exchange, inTake, record⟩ := List.mem_filterMap.1 member
  rw [← (Exchange.record?_eq_some_iff.1 record).1]
  exact past exchange inTake

namespace Backed

theorem card_inFlight_le (backed : Backed log profile k checkOf) {place : Nat}
    (inLog : place < log.length) :
    ((recordsBefore log window log.length).filter fun record =>
      checkOf record ≤ place ∧ place < record).card ≤ k := by
  have isRecord : ∀ record ∈ recordsBefore log window log.length,
      record < log.length ∧ (recordAt? log record).isSome = true := by
    intro record member
    obtain ⟨inRange, entry, found, -⟩ := mem_recordsBefore.1 member
    exact ⟨inRange, Option.isSome_of_eq_some found⟩
  -- Records have checks of their own, so the checks may be counted instead.
  rw [← Finset.card_image_of_injOn (f := checkOf)]
  · refine (Finset.card_le_card fun check inImage => ?_).trans (backed.inFlight (place + 1) inLog)
    obtain ⟨record, member, rfl⟩ := Finset.mem_image.1 inImage
    obtain ⟨inWindow, isEarlier, isLater⟩ := Finset.mem_filter.1 member
    obtain ⟨inRange, some⟩ := isRecord record inWindow
    exact Finset.mem_filter.2
      ⟨Finset.mem_range.2 (Nat.lt_succ_of_le isEarlier), record, inRange, isLater, some, rfl⟩
  · intro one isOne two isTwo same
    obtain ⟨inRange, some⟩ := isRecord one (Finset.mem_filter.1 isOne).1
    obtain ⟨inRange', some'⟩ := isRecord two (Finset.mem_filter.1 isTwo).1
    exact backed.own one inRange two inRange' some some' same

theorem fits_place {cap unit record : Nat} (backed : Backed log profile k checkOf)
    (run : Tracker.respond.IsRun (.start opened) log) (steady : Steady opened log)
    (roomy : ∀ exchange ∈ log, earliestMillis + hourMillis ≤ exchange.time.millis)
    (fits : FitsWindow profile window amount cap unit)
    (member : record ∈ recordsBefore log window log.length) :
    ∑ earlier ∈ recordsBefore log window log.length with earlier < checkOf record,
        weightAt log amount earlier + weightAt log amount record ≤ cap ∧
      weightAt log amount record ≤ unit := by
  obtain ⟨inLog, entry, found, inWindow⟩ := mem_recordsBefore.1 member
  have isEarlier := backed.earlier record inLog (Option.isSome_of_eq_some found)
  obtain ⟨check, isCheck, past, allows⟩ :=
    allows_of_clearsAt run steady roomy (backed.cleared record inLog entry found)
  obtain ⟨exchange, isExchange, recorded⟩ := Option.bind_eq_some_iff.1 found
  have order := steady.le_of_lt isCheck isExchange isEarlier
  rw [(Exchange.record?_eq_some_iff.1 recorded).1] at order
  have sameRecords : (recordsBefore log window log.length).filter (· < checkOf record) =
      recordsBefore log window (checkOf record) := by
    ext place
    simp only [Finset.mem_filter, mem_recordsBefore]
    exact ⟨fun h => ⟨h.2, h.1.2⟩, fun h => ⟨⟨by omega, h.2⟩, h.1⟩⟩
  have weight : weightAt log amount record = amount entry := by simp [weightAt, found]
  rw [sameRecords, ← tally_take_eq_sum, weight]
  exact fits _ _ entry past order allows inWindow

theorem tally_le {cap unit : Nat} (backed : Backed log profile k checkOf)
    (run : Tracker.respond.IsRun (.start opened) log) (steady : Steady opened log)
    (roomy : ∀ exchange ∈ log, earliestMillis + hourMillis ≤ exchange.time.millis)
    (fits : FitsWindow profile window amount cap unit) :
    (ledger log).tally window amount ≤ cap + (k - 1) * unit := by
  rw [tally_eq_sum]
  refine sum_le_of_latest checkOf ?other ?light ?keeps ?earlier ?inFlight
  case other =>
    intro record member inRecords
    obtain ⟨-, entry, found, -⟩ := mem_recordsBefore.1 member
    obtain ⟨-, other, recorded, -⟩ := mem_recordsBefore.1 inRecords
    exact recordAt?_ne_some_of_clearsAt (backed.cleared _ (lt_length_of_recordAt? found) _ found)
      recorded
  case light => exact fun record member => (backed.fits_place run steady roomy fits member).2
  case keeps => exact fun record member => (backed.fits_place run steady roomy fits member).1
  case earlier =>
    intro record member
    obtain ⟨inLog, entry, found, -⟩ := mem_recordsBefore.1 member
    exact backed.earlier record inLog (Option.isSome_of_eq_some found)
  case inFlight =>
    intro latest member
    obtain ⟨inLog, entry, found, -⟩ := mem_recordsBefore.1 member
    exact backed.card_inFlight_le
      ((backed.earlier latest inLog (Option.isSome_of_eq_some found)).trans inLog)

theorem lt_checkOf (backed : Backed log profile 1 checkOf) {one two : Nat} {first second : SpendRecord}
    (isFirst : recordAt? log one = some first) (isSecond : recordAt? log two = some second)
    (order : one < two) : one < checkOf two := by
  have inLog := lt_length_of_recordAt? isFirst
  have inLog' := lt_length_of_recordAt? isSecond
  have different : checkOf two ≠ one := by
    intro same
    exact recordAt?_ne_some_of_clearsAt (backed.cleared two inLog' second isSecond)
      (same ▸ isFirst)
  by_contra notBefore
  -- Then both checks wait for their records when the first record is made.
  have firstWaits : checkOf one ∈ awaiting log checkOf one :=
    Finset.mem_filter.2 ⟨Finset.mem_range.2
      (backed.earlier one inLog (Option.isSome_of_eq_some isFirst)),
      one, inLog, le_refl one, Option.isSome_of_eq_some isFirst, rfl⟩
  have secondWaits : checkOf two ∈ awaiting log checkOf one :=
    Finset.mem_filter.2 ⟨Finset.mem_range.2 (by omega),
      two, inLog', order.le, Option.isSome_of_eq_some isSecond, rfl⟩
  have same := Finset.card_le_one.1 (backed.inFlight one inLog.le) _ firstWaits _ secondWaits
  have := backed.own one inLog two inLog' (Option.isSome_of_eq_some isFirst)
    (Option.isSome_of_eq_some isSecond) same
  omega

theorem cooldown_le (backed : Backed log profile 1 checkOf)
    (run : Tracker.respond.IsRun (.start opened) log) (steady : Steady opened log)
    (roomy : ∀ exchange ∈ log, earliestMillis + hourMillis ≤ exchange.time.millis)
    {one two : Nat} {first second : SpendRecord}
    (isFirst : recordAt? log one = some first) (isSecond : recordAt? log two = some second)
    (order : one < two) : Tracker.cooldownMillis profile ≤ second.time.since first.time := by
  have inLog := lt_length_of_recordAt? isSecond
  have between := backed.lt_checkOf isFirst isSecond order
  obtain ⟨check, isCheck, -, allows⟩ :=
    allows_of_clearsAt run steady roomy (backed.cleared two inLog second isSecond)
  have firstBefore := mem_ledger_take isFirst between
  obtain ⟨last, isLast⟩ := Option.isSome_iff_exists.1
    (List.getLast?_isSome.2 (List.ne_nil_of_mem firstBefore))
  have firstThenLast := time_le_of_getLast? (steady.take _) firstBefore isLast
  obtain ⟨exchange, isExchange, recorded⟩ := Option.bind_eq_some_iff.1 isSecond
  have checkThenSecond := steady.le_of_lt isCheck isExchange
    (backed.earlier two inLog (Option.isSome_of_eq_some isSecond))
  rw [(Exchange.record?_eq_some_iff.1 recorded).1] at checkThenSecond
  have apart := allows.cooldown last isLast
  unfold Instant.since at apart ⊢
  omega

end Backed

/-- What the limits are worth for a whole run with at most `k` checks in flight. -/
theorem limits_of_backed (nativeCap : profile.dailyNativeCap.toNat < 2 ^ 64 - 1)
    (stablecoinCap : profile.dailyStablecoinCap.toNat < 2 ^ 64 - 1)
    (run : Tracker.respond.IsRun (.start opened) log) (steady : Steady opened log)
    (roomy : ∀ exchange ∈ log, earliestMillis + hourMillis ≤ exchange.time.millis)
    (backed : Backed log profile k checkOf) :
    (∀ day, (ledger log).totalOn (·.native) day ≤
      profile.dailyNativeCap.toNat + (k - 1) * profile.perTxNativeCap.toNat) ∧
    (∀ day, (ledger log).totalOn (·.stablecoin) day ≤
      profile.dailyStablecoinCap.toNat + (k - 1) * profile.perTxStablecoinCap.toNat) ∧
    (∀ start : Int, (ledger log).countP (fun entry =>
        start < entry.time.millis && entry.time.millis ≤ start + hourMillis) ≤
      profile.maxTxPerHour.toNat + (k - 1)) ∧
    (k = 1 → (ledger log).Pairwise fun first second =>
      ((min profile.minCooldownSecs.toNat 31536000 : Nat) : Int) * 1000 ≤
        second.time.millis - first.time.millis) := by
  refine ⟨fun day => ?native, fun day => ?stablecoin, fun start => ?hour, ?cooldown⟩
  case native => exact backed.tally_le run steady roomy (fitsWindow_native nativeCap day)
  case stablecoin => exact backed.tally_le run steady roomy (fitsWindow_stablecoin stablecoinCap day)
  case hour =>
    have counted := backed.tally_le run steady roomy (fitsWindow_hour start)
    rwa [Ledger.tally_one, Nat.mul_one] at counted
  case cooldown =>
    rintro rfl
    refine List.pairwise_filterMap.2 (List.pairwise_iff_getElem.2 ?_)
    intro one two inLog inLog' order first isFirst second isSecond
    have isFirst : recordAt? log one = some first := by
      rw [recordAt?, List.getElem?_eq_getElem inLog]
      exact isFirst
    have isSecond : recordAt? log two = some second := by
      rw [recordAt?, List.getElem?_eq_getElem inLog']
      exact isSecond
    exact backed.cooldown_le run steady roomy isFirst isSecond order

end Runs

def overlappingSpends : List SpendingExchange :=
  let profile : Profile := ⟨"narrow", 60, 100, 7, 9, 3, 0, 50⟩
  let evening (span : Fin 60000) : Instant :=
    ⟨86340000 + span, by unfold earliestMillis; omega, by unfold latestMillis; omega⟩
  let midnight : Instant := ⟨86400000, by decide, by decide⟩
  [⟨evening 0, .check 60 5 profile, .checked .allowed⟩,
    ⟨evening 1, .check 60 0 profile, .checked .allowed⟩,
    ⟨evening 1, .record 60 0, .recorded⟩,
    ⟨evening 2, .record 60 5, .recorded⟩,
    ⟨evening 2, .budgets profile, .left ⟨0, 4⟩⟩,
    ⟨evening 3, .check 1 0 profile, .checked (.denied (.dailyNative 120 1 100))⟩,
    ⟨midnight, .check 60 0 profile, .checked .allowed⟩,
    ⟨midnight, .record 60 0, .recorded⟩]

theorem limits_of_overlappingSpends :
    (ledger overlappingSpends).totalOn (·.native) 0 = 120 ∧
      ∀ day, (ledger overlappingSpends).totalOn (·.native) day ≤ 100 + (2 - 1) * 60 := by
  let checkOf (place : Nat) : Nat := if place = 2 then 1 else if place = 3 then 0 else 6
  have backed : Backed overlappingSpends ⟨"narrow", 60, 100, 7, 9, 3, 0, 50⟩ 2 checkOf :=
    { earlier := by decide +kernel
      cleared := by decide +kernel
      own := by decide +kernel
      inFlight := by decide +kernel }
  have run : Tracker.respond.IsRun (.start .epoch) overlappingSpends := by decide +kernel
  exact ⟨by decide +kernel, (limits_of_backed (by decide) (by decide) run (by decide +kernel)
    (by decide +kernel) backed).1⟩

end WalletPolicy

import WalletPolicy.Profile
import WalletPolicy.Spending.Check
import WalletPolicy.Time.Instant

/-!
The totals return to zero at the first use on a later day; a clock that goes back does not change
the day. The transactions of the trailing hour outlive the day. A check looks and does not count;
only a record counts.
-/
namespace WalletPolicy

structure Tracker where
  day : Day
  nativeSpent : UInt64
  stablecoinSpent : UInt64
  recent : List Instant
  lastTx : Option Instant
  deriving DecidableEq

structure SpendingSnapshot where
  day : Day
  nativeSpent : UInt64
  stablecoinSpent : UInt64
  txLastHour : Nat
  lastTxAt : Option Instant
  takenAt : Instant
  deriving DecidableEq

namespace Tracker

def start (now : Instant) : Tracker where
  day := now.day
  nativeSpent := 0
  stablecoinSpent := 0
  recent := []
  lastTx := none

def rollOver (tracker : Tracker) (now : Instant) : Tracker :=
  if tracker.day < now.day then
    { tracker with day := now.day, nativeSpent := 0, stablecoinSpent := 0 }
  else tracker

def prune (tracker : Tracker) (now : Instant) : Tracker :=
  let cutoff := now.laterOrSame (-hourMillis)
  { tracker with recent := tracker.recent.filter fun t => cutoff.millis < t.millis }

def refresh (tracker : Tracker) (now : Instant) : Tracker := (tracker.rollOver now).prune now

def longestCooldownSecs : Nat := 31536000

def cooldownMillis (profile : Profile) : Int :=
  (min profile.minCooldownSecs.toNat longestCooldownSecs : Nat) * secondMillis

/-- Seconds until the cooldown ends, at least one, while it has not ended. -/
def cooldownLeft? (tracker : Tracker) (now : Instant) (profile : Profile) : Option Int64 :=
  match tracker.lastTx with
  | none => none
  | some last =>
    let left := cooldownMillis profile - now.since last
    if 0 < left then some (Int64.ofInt (max (Instant.wholeSeconds left) 1)) else none

def judge (tracker : Tracker) (now : Instant) (native stablecoin : UInt64) (profile : Profile) :
    SpendCheck :=
  if profile.perTxNativeCap < native then
    .denied (.perTxNative native profile.perTxNativeCap)
  else if profile.perTxStablecoinCap < stablecoin then
    .denied (.perTxStablecoin stablecoin profile.perTxStablecoinCap)
  else if profile.dailyNativeCap < Amount.add tracker.nativeSpent native then
    .denied (.dailyNative tracker.nativeSpent native profile.dailyNativeCap)
  else if profile.dailyStablecoinCap < Amount.add tracker.stablecoinSpent stablecoin then
    .denied (.dailyStablecoin tracker.stablecoinSpent stablecoin profile.dailyStablecoinCap)
  else if profile.maxTxPerHour.toNat ≤ tracker.recent.length then
    .denied (.hourlyRate (Amount.saturate tracker.recent.length) profile.maxTxPerHour)
  else
    match tracker.cooldownLeft? now profile with
    | some remaining => .denied (.cooldown remaining)
    | none => .allowed

def check (tracker : Tracker) (now : Instant) (native stablecoin : UInt64) (profile : Profile) :
    Tracker × SpendCheck :=
  let tracker := tracker.refresh now
  (tracker, tracker.judge now native stablecoin profile)

def record (tracker : Tracker) (now : Instant) (native stablecoin : UInt64) : Tracker :=
  let tracker := tracker.rollOver now
  prune
    { tracker with
      nativeSpent := Amount.add tracker.nativeSpent native
      stablecoinSpent := Amount.add tracker.stablecoinSpent stablecoin
      recent := now :: tracker.recent
      lastTx := some now }
    now

/-- What may still be spent under a profile. Nothing of an earlier day counts, and the tracker is
not changed. -/
def budgets (tracker : Tracker) (now : Instant) (profile : Profile) : Budgets :=
  if tracker.day < now.day then
    { native := profile.dailyNativeCap, stablecoin := profile.dailyStablecoinCap }
  else
    { native := Amount.sub profile.dailyNativeCap tracker.nativeSpent
      stablecoin := Amount.sub profile.dailyStablecoinCap tracker.stablecoinSpent }

def figures (tracker : Tracker) (now : Instant) : SpendingSnapshot where
  day := tracker.day
  nativeSpent := tracker.nativeSpent
  stablecoinSpent := tracker.stablecoinSpent
  txLastHour := tracker.recent.length
  lastTxAt := tracker.lastTx
  takenAt := now

def snapshot (tracker : Tracker) (now : Instant) : Tracker × SpendingSnapshot :=
  let tracker := tracker.refresh now
  (tracker, tracker.figures now)

end Tracker

end WalletPolicy

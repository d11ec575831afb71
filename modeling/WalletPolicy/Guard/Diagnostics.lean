import WalletPolicy.Guard.Session
import WalletPolicy.Text.Quoted
import WalletPolicy.Time.Calendar

namespace WalletPolicy

def describeRecord (name : String) (fields : List (String × String)) (isComplete : Bool) :
    String :=
  let shown := fields.map fun field => field.1 ++ ": " ++ field.2
  let shown := if isComplete then shown else shown ++ [".."]
  name ++ " \x7b " ++ String.intercalate ", " shown ++ " \x7d"

def describeOption : Option String → String
  | none => "None"
  | some value => s!"Some({value})"

def describeBool (value : Bool) : String := if value then "true" else "false"

def dropTrailingZeros (digits : List Char) : List Char :=
  (digits.reverse.dropWhile (· == '0')).reverse

def describeTimeout (millis : UInt64) : String :=
  let n := millis.toNat
  if n = 0 then "0ns"
  else if n < 1000 then s!"{n}ms"
  else
    let fraction := dropTrailingZeros (Amount.padLeft 3 (n % 1000)).toList
    if fraction.isEmpty then s!"{n / 1000}s" else s!"{n / 1000}.{String.ofList fraction}s"

def describeSpan (millis : Int) : String :=
  describeRecord "TimeDelta"
    [("secs", toString (millis / 1000)), ("nanos", toString (millis % 1000 * 1000000))] true

def Session.describeGuard (session : Session) : String :=
  describeRecord "PolicyEngine"
    [("profile", Text.quoted session.posture.profile.name),
      ("frozen", describeBool session.posture.frozen),
      ("allowlist", toString session.posture.allowlist.length),
      ("wallet", describeOption (session.guard.wallet.map Address.describe)),
      ("home_chain_id", describeOption (session.guard.homeChain.map fun n => toString n.toNat)),
      ("has_quoter", describeBool session.guard.quoteSource.isSome),
      ("quote_timeout", describeTimeout session.guard.quoteTimeout)] false

def Tracker.describe (tracker : Tracker) : String :=
  describeRecord "SpendingTracker"
    [("day", tracker.day.toText), ("native_spent", toString tracker.nativeSpent.toNat),
      ("stablecoin_spent", toString tracker.stablecoinSpent.toNat)] false

def ApprovalLimits.describe (limits : ApprovalLimits) : String :=
  describeRecord "ApprovalLimits"
    [("expiry", describeSpan limits.expiry),
      ("max_failed_per_code", toString limits.maxFailedPerCode.toNat),
      ("max_global_failures", toString limits.maxGlobalFailures),
      ("failure_window", describeSpan limits.failureWindow)] true

def ApprovalDesk.describe (desk : ApprovalDesk) : String :=
  describeRecord "ApprovalManager"
    [("limits", desk.limits.describe), ("pending", toString desk.pending.length),
      ("recent_failures", toString desk.failures.length)] false

def IssuedApproval.describe (approval : IssuedApproval) : String :=
  describeRecord "IssuedApproval"
    [("code", Text.quoted "<redacted>"), ("approval_hash", approval.approvalDigest.describe),
      ("summary", Text.quoted approval.summary), ("expires_at", approval.expiresAt.toText)] false

end WalletPolicy

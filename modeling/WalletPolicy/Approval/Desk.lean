import WalletPolicy.Approval.Binding
import WalletPolicy.Amount
import WalletPolicy.Time.Instant

/-!
Single-use codes that a human enters to approve one call. Failures of all codes within a window are
counted too, and while there are too many of them nothing is verified. The codes come from outside,
and so does the order in which they are kept.
-/
namespace WalletPolicy

/-- Limits on codes and on failures. Spans are in milliseconds. -/
structure ApprovalLimits where
  expiry : Int
  maxFailedPerCode : UInt32
  maxGlobalFailures : Nat
  failureWindow : Int
  deriving DecidableEq

namespace ApprovalLimits

def standard : ApprovalLimits where
  expiry := 180 * secondMillis
  maxFailedPerCode := 3
  maxGlobalFailures := 5
  failureWindow := 60 * secondMillis

instance : Inhabited ApprovalLimits := ⟨standard⟩

def withExpirySecs (limits : ApprovalLimits) (seconds : UInt32) : ApprovalLimits :=
  { limits with expiry := seconds.toNat * secondMillis }

end ApprovalLimits

def approvalCode (n : Nat) : String := Amount.padLeft 8 n

def isApprovalCode (code : String) : Bool :=
  code.toList.length == 8 && code.toList.all Char.isDigit

structure PendingApproval where
  approvalDigest : Digest
  intentDigest : Digest
  summary : String
  expiresAt : Instant
  failedAttempts : UInt32
  deriving DecidableEq

structure IssuedApproval where
  code : String
  approvalDigest : Digest
  intentDigest : Digest
  summary : String
  expiresAt : Instant
  deriving DecidableEq

structure ListedApproval where
  code : String
  summary : String
  digestStart : String
  expiresAt : Instant
  expiresInSecs : Int
  deriving DecidableEq

/-- Approvals as they are shown, the one that ends first at the head. Those that end at one instant
are in the order of their codes in `order`, which is how the codes happen to be kept. -/
def ListedApproval.arrange (order : List String) (approvals : List ListedApproval) :
    List ListedApproval :=
  let kept := approvals.mergeSort fun a b => order.idxOf a.code ≤ order.idxOf b.code
  kept.mergeSort fun a b => a.expiresAt.millis ≤ b.expiresAt.millis

def expiresInSecs (expiresAt now : Instant) : Int :=
  max (Instant.wholeSeconds (expiresAt.since now)) 0

inductive ApprovalOutcome where
  | approved (approvalDigest : Digest) (summary : String)
  | invalid (reason : String)
  | expired
  | revoked (reason : String)
  | rateLimited (reason : String)
  deriving DecidableEq

namespace ApprovalOutcome

def isApproved : ApprovalOutcome → Bool
  | .approved .. => true
  | _ => false

def message : ApprovalOutcome → String
  | .approved approvalDigest _ => s!"approved ({approvalDigest.short})"
  | .invalid reason => s!"invalid: {reason}"
  | .expired => "expired"
  | .revoked reason => s!"revoked: {reason}"
  | .rateLimited reason => s!"rate limited: {reason}"

def tooManyFailures : ApprovalOutcome :=
  .rateLimited "Too many failed attempts; try again in 1 minute"

def noSuchCode : ApprovalOutcome := .invalid "Invalid or expired code"

def tooManyAttempts : ApprovalOutcome :=
  .revoked "Approval revoked after too many failed attempts"

def otherCall : ApprovalOutcome := .invalid "Code does not match this transaction"

end ApprovalOutcome

structure ApprovalDesk where
  limits : ApprovalLimits
  /-- Waiting approvals by code. A code occurs at most once. -/
  pending : List (String × PendingApproval)
  failures : List Instant
  deriving DecidableEq

namespace ApprovalDesk

def empty (limits : ApprovalLimits) : ApprovalDesk := ⟨limits, [], []⟩

def find? (desk : ApprovalDesk) (code : String) : Option PendingApproval :=
  desk.pending.lookup code

def remove (desk : ApprovalDesk) (code : String) : ApprovalDesk :=
  { desk with pending := desk.pending.filter fun entry => entry.1 != code }

def insert (desk : ApprovalDesk) (code : String) (approval : PendingApproval) : ApprovalDesk :=
  { desk with
    pending := desk.pending.filter (fun entry => entry.1 != code) ++ [(code, approval)] }

/-- Forget codes whose expiry has passed. A code at its very expiry stays. -/
def purgeExpired (desk : ApprovalDesk) (now : Instant) : ApprovalDesk :=
  { desk with
    pending := desk.pending.filter fun entry => now.millis ≤ entry.2.expiresAt.millis }

def purgeFailures (desk : ApprovalDesk) (now : Instant) : ApprovalDesk :=
  let cutoff := now.laterOrSame (-desk.limits.failureWindow)
  { desk with failures := desk.failures.filter fun t => cutoff.millis < t.millis }

def noteFailure (desk : ApprovalDesk) (now : Instant) : ApprovalDesk :=
  let desk := desk.purgeFailures now
  { desk with failures := now :: desk.failures }

/-- The second at which an approval ends, as its digest covers it: zero before 1970. -/
def expirySecond (expiresAt : Instant) : UInt64 := UInt64.ofNat expiresAt.seconds.toNat

def issue (desk : ApprovalDesk) (now : Instant) (code : String) (intent : Intent)
    (summary : String) : ApprovalDesk × IssuedApproval :=
  let expiresAt := now.laterOrSame desk.limits.expiry
  let approvalDigest := intent.approvalDigest (expirySecond expiresAt)
  let intentDigest := intent.digest
  let pending : PendingApproval :=
    { approvalDigest, intentDigest, summary, expiresAt, failedAttempts := 0 }
  ((desk.purgeExpired now).insert code pending,
    { code, approvalDigest, intentDigest, summary, expiresAt })

def settle (desk : ApprovalDesk) (now : Instant) (code : String) (approval : PendingApproval)
    (intentDigest : Digest) : ApprovalDesk × ApprovalOutcome :=
  if desk.limits.maxFailedPerCode ≤ approval.failedAttempts then
    (desk.remove code, .tooManyAttempts)
  else if approval.expiresAt.millis ≤ now.millis then
    (desk.remove code, .expired)
  else if approval.intentDigest ≠ intentDigest then
    (desk.noteFailure now, .otherCall)
  else
    (desk.remove code, .approved approval.approvalDigest approval.summary)

def verify (desk : ApprovalDesk) (now : Instant) (code : String) (intentDigest : Digest) :
    ApprovalDesk × ApprovalOutcome :=
  let desk := desk.purgeFailures now
  if desk.limits.maxGlobalFailures ≤ desk.failures.length then (desk, .tooManyFailures)
  else
    let desk := desk.purgeExpired now
    match desk.find? code with
    | none => (desk.noteFailure now, .noSuchCode)
    | some approval => desk.settle now code approval intentDigest

def oneMore (attempts : UInt32) : UInt32 := UInt32.ofNat (min (attempts.toNat + 1) (UInt32.size - 1))

def countAttempt (code : String) (entry : String × PendingApproval) : String × PendingApproval :=
  if entry.1 = code then
    (entry.1, { entry.2 with failedAttempts := oneMore entry.2.failedAttempts })
  else entry

def isUsedUp (desk : ApprovalDesk) (code : String) : Bool :=
  match desk.find? code with
  | some approval => desk.limits.maxFailedPerCode ≤ approval.failedAttempts
  | none => false

def recordFailure (desk : ApprovalDesk) (now : Instant) (code : String) : ApprovalDesk :=
  let counted := { desk with pending := desk.pending.map (countAttempt code) }
  noteFailure (if counted.isUsedUp code then counted.remove code else counted) now

def count (desk : ApprovalDesk) (now : Instant) : ApprovalDesk × Nat :=
  let desk := desk.purgeExpired now
  (desk, desk.pending.length)

def listed (now : Instant) (entry : String × PendingApproval) : ListedApproval where
  code := entry.1
  summary := entry.2.summary
  digestStart := entry.2.approvalDigest.short
  expiresAt := entry.2.expiresAt
  expiresInSecs := WalletPolicy.expiresInSecs entry.2.expiresAt now

def list (desk : ApprovalDesk) (now : Instant) (order : List String) :
    ApprovalDesk × List ListedApproval :=
  let desk := desk.purgeExpired now
  (desk, ListedApproval.arrange order (desk.pending.map (listed now)))

end ApprovalDesk

end WalletPolicy

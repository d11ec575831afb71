import WalletPolicy.Approval.Desk
import WalletPolicy.Guard.Basic

/-!
A guard with its posture, tracker and approval desk, all on one clock that moves only when told to.
-/
namespace WalletPolicy

structure Session where
  guard : Guard
  posture : Posture
  tracker : Tracker
  desk : ApprovalDesk
  now : Instant

inductive Command where
  | evaluate (intent : Intent)
  | decode (intent : Intent)
  | record (native stablecoin : UInt64)
  | snapshot
  | check (native stablecoin : UInt64) (profile : Option Profile)
  | budgets (profile : Option Profile)
  | advance (span : Int)
  | setClock (now : Instant)
  | freeze
  | unfreeze
  | allow (address : Address)
  | disallow (address : Address)
  | isAllowed (address : Address)
  | allowlist
  | setProfile (profile : Profile)
  | posture
  | issue (code : String) (intent : Intent) (summary : String)
  | verify (code : String) (intentDigest : Digest)
  | recordFailure (code : String)
  | countPending
  | listPending (order : List String := [])

inductive Reply where
  | done
  | decision (decision : Decision) (requests : List QuoteRequest)
  | decoded (decoded : Decoded)
  | snapshot (snapshot : SpendingSnapshot)
  | check (check : SpendCheck)
  | budgets (budgets : Budgets)
  | time (now : Instant)
  | flag (value : Bool)
  | addresses (addresses : List Address)
  | posture (posture : Posture)
  | issued (approval : IssuedApproval)
  | outcome (outcome : ApprovalOutcome)
  | count (count : Nat)
  | listed (approvals : List ListedApproval)

namespace Session

def start (guard : Guard) (posture : Posture) (limits : ApprovalLimits) (now : Instant) :
    Session where
  guard
  posture
  tracker := .start now
  desk := .empty limits
  now

def begin (session : Session) (intent : Intent) : Session × Progress :=
  let (tracker, progress) :=
    session.guard.begin session.posture session.tracker session.now intent
  ({ session with tracker }, progress)

def resume (session : Session) (inquiry : Inquiry) (answer : QuoteAnswer) : Session × Decision :=
  let (tracker, decision) :=
    session.guard.resume session.posture session.tracker session.now inquiry answer
  ({ session with tracker }, decision)

/-- Decide on a call, and tell which quotes have been asked for on the way. -/
def evaluateAsking (session : Session) (intent : Intent) : Session × Decision × List QuoteRequest :=
  match session.begin intent with
  | (session, .decided decision) => (session, decision, [])
  | (session, .awaiting inquiry) =>
    let (session, decision) := session.resume inquiry (session.guard.ask inquiry)
    (session, decision, [inquiry.request])

def evaluate (session : Session) (intent : Intent) : Session × Decision :=
  let (session, decision, _) := session.evaluateAsking intent
  (session, decision)

def step (session : Session) : Command → Session × Reply
  | .evaluate intent =>
    let (session, decision, requests) := session.evaluateAsking intent
    (session, .decision decision requests)
  | .decode intent => (session, .decoded (intent.decode session.guard.registries))
  | .record native stablecoin =>
    ({ session with tracker := session.tracker.record session.now native stablecoin }, .done)
  | .snapshot =>
    let (tracker, snapshot) := session.tracker.snapshot session.now
    ({ session with tracker }, .snapshot snapshot)
  | .check native stablecoin profile =>
    let profile := profile.getD session.posture.profile
    let (tracker, check) := session.tracker.check session.now native stablecoin profile
    ({ session with tracker }, .check check)
  | .budgets profile =>
    let profile := profile.getD session.posture.profile
    (session, .budgets (session.tracker.budgets session.now profile))
  | .advance span =>
    let now := session.now.laterOrSame span
    ({ session with now }, .time now)
  | .setClock now => ({ session with now }, .time now)
  | .freeze => ({ session with posture := { session.posture with frozen := true } }, .flag true)
  | .unfreeze =>
    ({ session with posture := { session.posture with frozen := false } }, .flag false)
  | .allow address =>
    ({ session with posture := session.posture.allow address },
      .flag !(session.posture.allows address))
  | .disallow address =>
    ({ session with posture := session.posture.disallow address },
      .flag (session.posture.allows address))
  | .isAllowed address => (session, .flag (session.posture.allows address))
  | .allowlist => (session, .addresses session.posture.sortedAllowlist)
  | .setProfile profile =>
    let posture := { session.posture with profile }
    ({ session with posture }, .posture posture)
  | .posture => (session, .posture session.posture)
  | .issue code intent summary =>
    let (desk, approval) := session.desk.issue session.now code intent summary
    ({ session with desk }, .issued approval)
  | .verify code intentDigest =>
    let (desk, outcome) := session.desk.verify session.now code intentDigest
    ({ session with desk }, .outcome outcome)
  | .recordFailure code =>
    ({ session with desk := session.desk.recordFailure session.now code }, .done)
  | .countPending =>
    let (desk, count) := session.desk.count session.now
    ({ session with desk }, .count count)
  | .listPending order =>
    let (desk, approvals) := session.desk.list session.now order
    ({ session with desk }, .listed approvals)

def run (session : Session) : List Command → Session × List Reply
  | [] => (session, [])
  | command :: commands =>
    let (session, reply) := session.step command
    let (session, replies) := session.run commands
    (session, reply :: replies)

/-- Evaluate an intent while a command arrives `after` milliseconds later. The reply is that of the
evaluation. -/
def evaluateAmid (session : Session) (intent : Intent) (after : Nat) (command : Command) :
    Session × Decision :=
  match session.begin intent with
  | (session, .decided decision) => ((session.step command).1, decision)
  | (session, .awaiting inquiry) =>
    let answer := session.guard.ask inquiry
    if after < session.guard.waiting inquiry then
      (session.step command).1.resume inquiry answer
    else
      let (session, decision) := session.resume inquiry answer
      ((session.step command).1, decision)

end Session

end WalletPolicy

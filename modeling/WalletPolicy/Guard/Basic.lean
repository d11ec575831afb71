import WalletPolicy.Action
import WalletPolicy.Decision
import WalletPolicy.Quote
import WalletPolicy.Spending.Tracker

/-!
Nothing is allowed unless a rule shows it to be safe, and every failure asks a human. Evaluating a
swap may have to wait for a quote, so it has two steps: `Guard.begin` and, with the answer,
`Guard.resume`, which looks at the posture, the tracker and the clock of its own moment.
`Guard.evaluate` is both with nothing in between.
-/
namespace WalletPolicy

/-- What the owner of a wallet may change at any time. -/
structure Posture where
  profile : Profile
  allowlist : List Address
  frozen : Bool
  deriving DecidableEq

namespace Posture

def ofProfile (profile : Profile) : Posture := ⟨profile, [], false⟩

def allows (posture : Posture) (address : Address) : Bool := posture.allowlist.contains address

def allow (posture : Posture) (address : Address) : Posture :=
  if posture.allows address then posture
  else { posture with allowlist := posture.allowlist ++ [address] }

def allowAll (posture : Posture) (addresses : List Address) : Posture :=
  addresses.foldl allow posture

def disallow (posture : Posture) (address : Address) : Posture :=
  { posture with allowlist := posture.allowlist.filter (· != address) }

def sortedAllowlist (posture : Posture) : List Address :=
  posture.allowlist.mergeSort fun a b => a.toNat ≤ b.toNat

end Posture

/-- What is fixed when a wallet is opened. -/
structure Guard where
  registries : Registries
  quoteSource : Option QuoteSource
  quoteTimeout : UInt64  -- milliseconds
  wallet : Option Address
  /-- The chain that swaps are quoted on, instead of their own. -/
  homeChain : Option UInt64

def Guard.ofProfile (profile : Profile) : Guard where
  registries := .ofTables .builtIn (.forProfile profile.name)
  quoteSource := none
  quoteTimeout := 5000
  wallet := none
  homeChain := none

structure Inquiry where
  intent : Intent
  swap : Swap
  request : QuoteRequest
  deriving DecidableEq

inductive Progress where
  | decided (decision : Decision)
  | awaiting (inquiry : Inquiry)
  deriving DecidableEq

def frozenReason : String := "Wallet is frozen"

def Decision.ofSpendCheck : SpendCheck → Decision
  | .allowed => .allow
  | .denied violation => .requireApproval s!"Spending limit: {violation.message}"

def Decision.ofQuoteError (e : QuoteError) : Decision :=
  .requireApproval s!"Cannot verify slippage ({e.message}); approval required"

/-! ## The shape of a swap -/

namespace Swap

def allowedCommands : List UInt8 := [swapCommand, wrapCommand]

def disallowedCommands (swap : Swap) : Bytes :=
  swap.commands.filter fun command => !allowedCommands.contains command

def paysOutTo (swap : Swap) (wallet : Option Address) : Bool :=
  swap.recipient == senderMarker || some swap.recipient == wallet

def commandText (command : UInt8) : String := Hex.encodePrefixed [command]

def objection? (swap : Swap) (wallet : Option Address) : Option String :=
  if !swap.paysOutTo wallet then
    some s!"Swap recipient {swap.recipient.short} is not the wallet; possible output diversion"
  else if !swap.disallowedCommands.isEmpty then
    let commands := String.intercalate ", " (swap.disallowedCommands.map commandText)
    some s!"Swap contains disallowed commands [{commands}]; approval required"
  else if swap.wrapsNative && swap.payerIsUser then
    some "ETH swap with payerIsUser=true is unexpected; approval required"
  else if !swap.wrapsNative && !swap.payerIsUser then
    some "Token swap with payerIsUser=false is unexpected; approval required"
  else if swap.isMultiHop then
    some "Multi-hop swap; cannot verify slippage"
  else none

end Swap

namespace Guard

/-! ## The two steps of an evaluation -/

def quoteRequest (guard : Guard) (intent : Intent) (swap : Swap) : QuoteRequest where
  chainId := guard.homeChain.getD intent.chainId
  tokenIn := swap.tokenIn
  tokenOut := swap.tokenOut
  amountIn := swap.amountIn
  fee := swap.fee

def spend (posture : Posture) (tracker : Tracker) (now : Instant) (native stablecoin : UInt64) :
    Tracker × Decision :=
  let (tracker, check) := tracker.check now native stablecoin posture.profile
  (tracker, .ofSpendCheck check)

def transfer (posture : Posture) (tracker : Tracker) (now : Instant)
    (native stablecoin : UInt64) (recipient : Address) : Tracker × Decision :=
  let (tracker, check) := tracker.check now native stablecoin posture.profile
  match check with
  | .denied violation => (tracker, .ofSpendCheck (.denied violation))
  | .allowed =>
    if posture.allows recipient || (native == 0 && stablecoin == 0) then (tracker, .allow)
    else
      let reason := s!"Transfer to non-allowlisted address {recipient.short}"
      (tracker, .requireApproval reason)

def beginSwap (guard : Guard) (intent : Intent) (swap : Swap) : Progress :=
  match swap.objection? guard.wallet with
  | some reason => .decided (.requireApproval reason)
  | none =>
    let request := guard.quoteRequest intent swap
    match guard.quoteSource with
    | none => .decided (.ofQuoteError (.unavailable request.chainId))
    | some _ => .awaiting { intent, swap, request }

def beginAction (guard : Guard) (posture : Posture) (tracker : Tracker) (now : Instant)
    (intent : Intent) (decoded : Decoded) : Tracker × Progress :=
  match decoded.action with
  | .swap details => (tracker, guard.beginSwap intent details)
  | .protocolCall _ =>
    let (tracker, decision) := spend posture tracker now intent.value 0
    (tracker, .decided decision)
  | .transfer =>
    let (tracker, decision) := transfer posture tracker now intent.value 0 intent.target
    (tracker, .decided decision)
  | .tokenTransfer _ recipient amount =>
    let (tracker, decision) := transfer posture tracker now intent.value amount recipient
    (tracker, .decided decision)
  | .unknown =>
    (tracker, .decided (.requireApproval s!"Action requires approval: {decoded.summary}"))

def unknownReason? (decoded : Decoded) : Option String :=
  if decoded.isKnown then none
  else
    match decoded.action with
    | .tokenTransfer .. =>
      some s!"Unknown token transfer requires approval: {decoded.summary}"
    | _ => some s!"Unknown calldata: {decoded.summary}"

def begin (guard : Guard) (posture : Posture) (tracker : Tracker) (now : Instant)
    (intent : Intent) : Tracker × Progress :=
  if posture.frozen then (tracker, .decided (.deny frozenReason))
  else
    match BlockedSelector.ofCalldata? intent.calldata with
    | some blocked =>
      let name := s!"{blocked.selector.toHex} ({blocked.signature})"
      (tracker,
        .decided (.requireApproval s!"Blocked selector {name} requires explicit approval"))
    | none =>
      let decoded := intent.decode guard.registries
      match unknownReason? decoded with
      | some reason => (tracker, .decided (.requireApproval reason))
      | none => guard.beginAction posture tracker now intent decoded

/-- The second step of an evaluation, once the quote has come or failed. A missing quote asks at
once; else everything is looked at again as it stands now. -/
def resume (guard : Guard) (posture : Posture) (tracker : Tracker) (now : Instant)
    (inquiry : Inquiry) (answer : QuoteAnswer) : Tracker × Decision :=
  match refuseZero answer with
  | .error e => (tracker, .ofQuoteError e)
  | .ok quote =>
    if posture.frozen then (tracker, .deny frozenReason)
    else
      let swap := inquiry.swap
      let slippage := Slippage.check quote swap.amountOutMin posture.profile.maxSlippageBps
      if !slippage.isWithin then (tracker, .requireApproval slippage.message)
      else
        let stablecoin :=
          if guard.registries.isStablecoin inquiry.intent.chainId swap.tokenIn then swap.amountIn
          else 0
        spend posture tracker now inquiry.intent.value stablecoin

def ask (guard : Guard) (inquiry : Inquiry) : QuoteAnswer :=
  match guard.quoteSource with
  | none => .error (.unavailable inquiry.request.chainId)
  | some source => source.outcome guard.quoteTimeout inquiry.request

def waiting (guard : Guard) (inquiry : Inquiry) : Nat :=
  match guard.quoteSource with
  | none => 0
  | some source => source.waiting guard.quoteTimeout inquiry.request

def evaluate (guard : Guard) (posture : Posture) (tracker : Tracker) (now : Instant)
    (intent : Intent) : Tracker × Decision :=
  match guard.begin posture tracker now intent with
  | (tracker, .decided decision) => (tracker, decision)
  | (tracker, .awaiting inquiry) =>
    guard.resume posture tracker now inquiry (guard.ask inquiry)

end Guard

def Progress.requests : Progress → List QuoteRequest
  | .decided _ => []
  | .awaiting inquiry => [inquiry.request]

end WalletPolicy

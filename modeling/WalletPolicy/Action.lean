import WalletPolicy.Amount
import WalletPolicy.Intent
import WalletPolicy.Registry
import WalletPolicy.Swap

/-!
What a call does, as far as its bytes and the registries tell. The first rule that applies wins:
empty data, a token transfer, a registered swap, another registered method.
-/
namespace WalletPolicy

inductive Action where
  | transfer
  | tokenTransfer (token recipient : Address) (amount : UInt64)
  | swap (details : Swap)
  | protocolCall (method : ProtocolMethod)
  | unknown
  deriving DecidableEq

def Action.name : Action → String
  | .transfer => "Transfer"
  | .tokenTransfer .. => "TokenTransfer"
  | .swap _ => "Swap"
  | .protocolCall _ => "ProtocolCall"
  | .unknown => "Unknown"

structure Decoded where
  action : Action
  isKnown : Bool
  summary : String
  selector : Option Selector
  deriving DecidableEq

def Swap.summary (swap : Swap) (value : UInt64) : String :=
  let input :=
    if swap.wrapsNative then s!"{Amount.native value} ETH"
    else s!"{swap.amountIn.toNat} of {swap.tokenIn.short}"
  let hops := if swap.isMultiHop then " (multi-hop)" else ""
  s!"Swap {input} for at least {swap.amountOutMin.toNat} of {swap.tokenOut.short} via Uniswap{hops}"

namespace Intent

def tokenTransferLength : Nat := 68  -- the selector and two words

def decodeTokenTransfer (intent : Intent) (registries : Registries) : Decoded :=
  let selector := some Selector.tokenTransfer
  let token := intent.target
  match Abi.readAddress intent.calldata 4, Abi.readUInt64 intent.calldata 36 with
  | some recipient, some amount =>
    let action := Action.tokenTransfer token recipient amount
    if registries.isStablecoin intent.chainId token then
      ⟨action, true, s!"Send {Amount.stablecoin amount} USDC to {recipient.short}", selector⟩
    else
      let summary :=
        s!"Transfer {amount.toNat} units of unregistered token {token.short} to {recipient.short}"
      ⟨action, false, summary, selector⟩
  | _, _ => ⟨.unknown, false, s!"Malformed token transfer on {token.short}", selector⟩

def decodeMethod (intent : Intent) (selector : Selector) (method : ProtocolMethod) : Decoded :=
  if selector = .routerExecute then
    match Swap.ofCalldata? intent.calldata with
    | some swap => ⟨.swap swap, true, swap.summary intent.value, some selector⟩
    | none =>
      let summary := s!"Undecodable router call {selector.toHex} to {intent.target.short}"
      ⟨.unknown, false, summary, some selector⟩
  else
    let call := s!"{method.protocol} {method.method} on {intent.target.short}"
    let value := if intent.value = 0 then "" else s!" with {Amount.native intent.value} ETH"
    ⟨.protocolCall method, true, call ++ value, some selector⟩

def decode (intent : Intent) (registries : Registries) : Decoded :=
  if intent.calldata.isEmpty then
    let summary := s!"Send {Amount.native intent.value} ETH to {intent.target.short}"
    ⟨.transfer, true, summary, none⟩
  else
    match intent.selector? with
    | none =>
      let size := intent.calldata.length
      let summary := s!"Malformed calldata ({size} bytes) to {intent.target.short}"
      ⟨.unknown, false, summary, none⟩
    | some selector =>
      if selector = .tokenTransfer ∧ tokenTransferLength ≤ intent.calldata.length then
        intent.decodeTokenTransfer registries
      else
        match registries.method? intent.chainId intent.target selector with
        | some method => intent.decodeMethod selector method
        | none =>
          let summary := s!"Unknown call {selector.toHex} to {intent.target.short}"
          ⟨.unknown, false, summary, some selector⟩

end Intent

end WalletPolicy

import WalletPolicy.Action
import WalletPolicy.Json.Basic

namespace WalletPolicy

def okOnly {ε α : Type} : Except ε α → Option α
  | .ok value => some value
  | .error _ => none

instance : JsonForm Address where
  write address := .text address.toHex
  read
    | .text text => okOnly (Address.parse text)
    | _ => none

instance : JsonForm Digest where
  write digest := .text digest.toHex
  read
    | .text text => okOnly (Digest.parse text)
    | _ => none

instance : JsonForm Selector where
  write selector := JsonForm.write selector.toBytes
  read value := do
    let bytes : List UInt8 ← JsonForm.read value
    Selector.ofBytes? bytes

namespace ProtocolMethod

def toMembers (method : ProtocolMethod) : List (String × Json) :=
  [("protocol", .text method.protocol), ("method", .text method.method)]

def ofMembers? (members : Json.Members) : Option ProtocolMethod := do
  let protocol ← members.get 0 "protocol"
  let method ← members.get 1 "method"
  some { protocol, method }

end ProtocolMethod

instance : JsonForm ProtocolMethod where
  write method := .object method.toMembers
  read := Json.readRecord 2 ProtocolMethod.ofMembers?

namespace Swap

def toMembers (swap : Swap) : List (String × Json) :=
  [("token_in", JsonForm.write swap.tokenIn), ("token_out", JsonForm.write swap.tokenOut),
    ("amount_in", JsonForm.write swap.amountIn),
    ("amount_out_min", JsonForm.write swap.amountOutMin), ("fee", JsonForm.write swap.fee),
    ("recipient", JsonForm.write swap.recipient), ("commands", JsonForm.write swap.commands),
    ("payer_is_user", JsonForm.write swap.payerIsUser),
    ("is_multi_hop", JsonForm.write swap.isMultiHop)]

def ofMembers? (members : Json.Members) : Option Swap := do
  let tokenIn ← members.get 0 "token_in"
  let tokenOut ← members.get 1 "token_out"
  let amountIn ← members.get 2 "amount_in"
  let amountOutMin ← members.get 3 "amount_out_min"
  let fee ← members.get 4 "fee"
  let recipient ← members.get 5 "recipient"
  let commands : List UInt8 ← members.get 6 "commands"
  let payerIsUser ← members.get 7 "payer_is_user"
  let isMultiHop ← members.get 8 "is_multi_hop"
  some {
    tokenIn, tokenOut, amountIn, amountOutMin, fee, recipient, commands, payerIsUser, isMultiHop }

end Swap

instance : JsonForm Swap where
  write swap := .object swap.toMembers
  read := Json.readRecord 9 Swap.ofMembers?

namespace Action

def toJson : Action → Json
  | .transfer => .object [("kind", .text "transfer")]
  | .tokenTransfer token recipient amount =>
    .object [("kind", .text "token_transfer"), ("token", JsonForm.write token),
      ("recipient", JsonForm.write recipient), ("amount", JsonForm.write amount)]
  | .swap details => .object (("kind", .text "swap") :: details.toMembers)
  | .protocolCall method => .object (("kind", .text "protocol_call") :: method.toMembers)
  | .unknown => .object [("kind", .text "unknown")]

def ofMembers? (kind : String) (members : Json.Members) : Option Action :=
  match kind with
  | "transfer" => if members.atMost 0 then some .transfer else none
  | "token_transfer" =>
    if members.atMost 3 then do
      let token ← members.get 0 "token"
      let recipient ← members.get 1 "recipient"
      let amount ← members.get 2 "amount"
      some (.tokenTransfer token recipient amount)
    else none
  | "swap" => if members.atMost 9 then (Swap.ofMembers? members).map .swap else none
  | "protocol_call" =>
    if members.atMost 2 then (ProtocolMethod.ofMembers? members).map .protocolCall else none
  | "unknown" => if members.atMost 0 then some .unknown else none
  | _ => none

end Action

instance : JsonForm Action where
  write := Action.toJson
  read value := do
    let (kind, members) ← value.tagged? "kind"
    Action.ofMembers? kind members

instance : JsonForm Decoded where
  write decoded :=
    .object [("action", JsonForm.write decoded.action),
      ("is_known", JsonForm.write decoded.isKnown), ("summary", JsonForm.write decoded.summary),
      ("selector", JsonForm.write decoded.selector)]
  read := Json.readRecord 4 fun members => do
    let action ← members.get 0 "action"
    let isKnown ← members.get 1 "is_known"
    let summary ← members.get 2 "summary"
    let selector ← members.get 3 "selector"
    some { action, isKnown, summary, selector }

end WalletPolicy

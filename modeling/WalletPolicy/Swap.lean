import WalletPolicy.Abi.Dynamic
import WalletPolicy.Selector

/-!
The one exact-input swap that a router call may carry. A call is read only if it has one input for
each command and exactly one swap command. A command with a flag bit is a command of its own.
-/
namespace WalletPolicy

open Abi

def swapCommand : UInt8 := 0x00

def wrapCommand : UInt8 := 0x0b  -- wraps the native asset

def senderMarker : Address := .ofNat 1  -- stands for the sender of the call

def routerMarker : Address := .ofNat 2  -- stands for the router itself

/-! ## Paths -/

structure Route where
  tokenIn : Address
  fee : UInt32
  tokenOut : Address
  isMultiHop : Bool
  deriving DecidableEq

namespace Route

def singleHopLength : Nat := 43  -- a token, a fee of three bytes, a token

def hopLength : Nat := 23  -- a fee and a token

def ofPath? (path : Bytes) : Option Route :=
  if path.length < singleHopLength ∨ (path.length - singleHopLength) % hopLength ≠ 0 then none
  else do
    let tokenIn ← Address.ofBytes? (path.take 20)
    let tokenOut ← Address.ofBytes? (path.drop (path.length - 20))
    some {
      tokenIn
      fee := UInt32.ofNat (Bytes.toNat ((path.drop 20).take 3))
      tokenOut
      isMultiHop := singleHopLength < path.length }

def writePath : List Address → List UInt32 → Bytes
  | [], _ => []
  | token :: tokens, [] => token.toBytes ++ writePath tokens []
  | token :: tokens, fee :: fees =>
    token.toBytes ++ Bytes.ofNat 3 fee.toNat ++ writePath tokens fees

end Route

/-! ## Swaps -/

structure Swap where
  tokenIn : Address
  tokenOut : Address
  amountIn : UInt64
  amountOutMin : UInt64
  fee : UInt32
  recipient : Address
  commands : Bytes
  payerIsUser : Bool
  isMultiHop : Bool
  deriving DecidableEq, Inhabited

namespace Swap

def wrapsNative (swap : Swap) : Bool := swap.commands.contains wrapCommand

def swapPlaces (start : Nat) : Bytes → List Nat
  | [] => []
  | command :: rest =>
    if command = swapCommand then start :: swapPlaces (start + 1) rest
    else swapPlaces (start + 1) rest

def ofInput? (commands input : Bytes) : Option Swap := do
  let recipient ← readAddress input 0
  let amountIn ← readUInt64 input 32
  let amountOutMin ← readUInt64 input 64
  let pathOffset ← readLength input 96
  let path ← readBytes input 0 pathOffset
  let payerIsUser ← readBool input 128
  let route ← Route.ofPath? path
  some {
    tokenIn := route.tokenIn
    tokenOut := route.tokenOut
    amountIn
    amountOutMin
    fee := route.fee
    recipient
    commands
    payerIsUser
    isMultiHop := route.isMultiHop }

def commandsAndInputs? (arguments : Bytes) : Option (Bytes × List Bytes) := do
  let commandsOffset ← readLength arguments 0
  let commands ← readBytes arguments 0 commandsOffset
  let inputsOffset ← readLength arguments 32
  let inputs ← readBytesList arguments inputsOffset
  some (commands, inputs)

def ofCalldata? (calldata : Bytes) : Option Swap := do
  let selector ← Selector.ofCalldata? calldata
  if selector ≠ .routerExecute then none
  else
    let (commands, inputs) ← commandsAndInputs? (calldata.drop 4)
    if inputs.length ≠ commands.length then none
    else
      match swapPlaces 0 commands with
      | [place] => do
        let input ← inputs[place]?
        ofInput? commands input
      | _ => none

end Swap

/-! ## Writing calls -/

namespace Calldata

def transfer (recipient : Address) (amount : UInt64) : Bytes :=
  Selector.tokenTransfer.toBytes ++ (Word.ofAddress recipient).toBytes ++
    (Word.ofUInt64 amount).toBytes

def approve (spender : Address) (amount : UInt64) : Bytes :=
  Selector.tokenApprove.toBytes ++ (Word.ofAddress spender).toBytes ++
    (Word.ofUInt64 amount).toBytes

def swapInput (recipient : Address) (amountIn amountOutMin : UInt64) (path : Bytes)
    (payerIsUser : Bool) : Bytes :=
  (Word.ofAddress recipient).toBytes ++ (Word.ofUInt64 amountIn).toBytes ++
    (Word.ofUInt64 amountOutMin).toBytes ++ lengthWord 160 ++ (Word.ofBool payerIsUser).toBytes ++
    writeBytes path

def wrapInput (recipient : Address) (least : UInt64) : Bytes :=
  (Word.ofAddress recipient).toBytes ++ (Word.ofUInt64 least).toBytes

def execute (commands : Bytes) (inputs : List Bytes) (deadline : UInt64) : Bytes :=
  let commandsPart := writeBytes commands
  Selector.routerExecute.toBytes ++ lengthWord 96 ++ lengthWord (96 + commandsPart.length) ++
    (Word.ofUInt64 deadline).toBytes ++ commandsPart ++ writeBytesList inputs

def noDeadline : UInt64 := 0xFFFFFFFFFFFFFFFF

def tokenSwap (recipient tokenIn tokenOut : Address) (fee : UInt32)
    (amountIn amountOutMin : UInt64) : Bytes :=
  let path := Route.writePath [tokenIn, tokenOut] [fee]
  execute [swapCommand] [swapInput recipient amountIn amountOutMin path true] noDeadline

def nativeSwap (recipient wrapped tokenOut : Address) (fee : UInt32)
    (amountIn amountOutMin : UInt64) : Bytes :=
  let path := Route.writePath [wrapped, tokenOut] [fee]
  execute [wrapCommand, swapCommand]
    [wrapInput routerMarker amountIn, swapInput recipient amountIn amountOutMin path false]
    noDeadline

end Calldata

end WalletPolicy

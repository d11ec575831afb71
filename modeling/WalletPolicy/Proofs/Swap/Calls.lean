import Mathlib.Logic.Basic
import WalletPolicy.Proofs.Abi.Layout
import WalletPolicy.Proofs.Guard.Decoding
import WalletPolicy.Proofs.Swap.Paths

namespace WalletPolicy

open Abi

namespace Swap

variable {calldata : Bytes} {commands : Bytes} {inputs : List Bytes} {input path : Bytes}
  {swap : Swap}

/-! ## The reader -/

theorem ofCalldata?_eq_some_iff :
    ofCalldata? calldata = some swap ↔
      Selector.ofCalldata? calldata = some .routerExecute ∧
        ∃ commands inputs place input,
          commandsAndInputs? (calldata.drop 4) = some (commands, inputs) ∧
            inputs.length = commands.length ∧ swapPlaces 0 commands = [place] ∧
            inputs[place]? = some input ∧ ofInput? commands input = some swap := by
  constructor
  · intro read
    obtain ⟨selector, start, read⟩ := Option.bind_eq_some_iff.1 read
    split at read
    · cases read
    · rename_i router
      obtain ⟨⟨commands, inputs⟩, arguments, read⟩ := Option.bind_eq_some_iff.1 read
      dsimp only at read
      split at read
      · cases read
      · rename_i sameLength
        split at read
        · rename_i place single
          obtain ⟨input, found, read⟩ := Option.bind_eq_some_iff.1 read
          rw [start, not_not.1 router]
          exact ⟨rfl, commands, inputs, place, input, arguments, not_not.1 sameLength, single,
            found, read⟩
        · cases read
  · rintro ⟨start, commands, inputs, place, input, arguments, sameLength, single, found, read⟩
    simp [ofCalldata?, start, arguments, sameLength, single, found, read]

theorem commands_of_ofInput? (read : ofInput? commands input = some swap) :
    swap.commands = commands := by
  simp only [ofInput?, Option.bind_eq_bind, Option.bind_eq_some_iff] at read
  obtain ⟨_, -, _, -, _, -, _, -, _, -, _, -, _, -, made⟩ := read
  rw [← Option.some.inj made]

theorem fee_lt_of_ofInput? (read : ofInput? commands input = some swap) :
    swap.fee.toNat < 2 ^ 24 := by
  simp only [ofInput?, Option.bind_eq_bind, Option.bind_eq_some_iff] at read
  obtain ⟨_, -, _, -, _, -, _, -, _, -, _, -, route, isRoute, made⟩ := read
  rw [← Option.some.inj made]
  exact Route.fee_lt_of_ofPath? isRoute

/-! ## Reading what was written -/

theorem ofInput?_swapInput {recipient : Address} {amountIn least : UInt64} {payerIsUser : Bool}
    {route : Route} (isRoute : Route.ofPath? path = some route) (fits : path.length + 192 < UInt64.size) :
    ofInput? commands (Calldata.swapInput recipient amountIn least path payerIsUser) =
      some ⟨route.tokenIn, route.tokenOut, amountIn, least, route.fee, recipient, commands,
        payerIsUser, route.isMultiHop⟩ := by
  generalize written : Calldata.swapInput recipient amountIn least path payerIsUser = input
  have stands : Calldata.swapInput recipient amountIn least path payerIsUser <+: input.drop 0 := by
    simp [written]
  simp only [Calldata.swapInput, writeBytes, Bytes.append_isPrefix_drop_iff,
    FixedBytes.length_toBytes, List.length_append, length_lengthWord] at stands
  obtain ⟨⟨⟨⟨⟨recipientStands, amountStands⟩, leastStands⟩, offsetStands⟩, payerStands⟩,
    ⟨lengthStands, pathStands⟩, -⟩ := stands
  have readRecipient : readAddress input 0 = some recipient :=
    readAddress_eq_some_iff.2 ⟨by decide, recipientStands⟩
  have readAmount : readUInt64 input 32 = some amountIn :=
    readUInt64_eq_some_iff.2 ⟨by decide, amountStands⟩
  have readLeast : readUInt64 input 64 = some least :=
    readUInt64_eq_some_iff.2 ⟨by decide, leastStands⟩
  have readOffset : readLength input 96 = some 160 :=
    readLength_eq_some_iff.2 ⟨by decide, offsetStands⟩
  have readPayer : readBool input 128 = some payerIsUser :=
    readBool_eq_some_iff.2 ⟨by decide, payerStands⟩
  have readPath : readBytes input 0 160 = some path := by
    refine readBytes_eq_some_iff.2 ⟨by change 0 + 160 + 32 + _ < _; omega, ?_⟩
    rw [Bytes.append_isPrefix_drop_iff, length_lengthWord]
    exact ⟨lengthStands, pathStands⟩
  simp [ofInput?, readRecipient, readAmount, readLeast, readOffset, readPayer, readPath, isRoute]

theorem length_swapInput {recipient : Address} {amountIn least : UInt64} {payerIsUser : Bool} :
    (Calldata.swapInput recipient amountIn least path payerIsUser).length =
      160 + (writeBytes path).length := by
  simp only [Calldata.swapInput, List.length_append, FixedBytes.length_toBytes, length_lengthWord]

theorem length_execute {deadline : UInt64} :
    (Calldata.execute commands inputs deadline).length =
      100 + (writeBytes commands).length + (writeBytesList inputs).length := by
  have selectorSize : Selector.routerExecute.toBytes.length = 4 := FixedBytes.length_toBytes _
  simp only [Calldata.execute, List.length_append, selectorSize, length_lengthWord,
    FixedBytes.length_toBytes]

theorem commandsAndInputs?_execute {deadline : UInt64}
    (fits : (Calldata.execute commands inputs deadline).length < UInt64.size) :
    commandsAndInputs? ((Calldata.execute commands inputs deadline).drop 4) =
      some (commands, inputs) := by
  have written : (Calldata.execute commands inputs deadline).drop 4 =
      lengthWord 96 ++ lengthWord (96 + (writeBytes commands).length) ++
        (Word.ofUInt64 deadline).toBytes ++ writeBytes commands ++ writeBytesList inputs := by
    simp only [Calldata.execute, List.append_assoc]
    exact List.drop_left' (FixedBytes.length_toBytes _)
  rw [length_execute] at fits
  have commandsSize := length_writeBytes commands
  generalize (Calldata.execute commands inputs deadline).drop 4 = arguments at written
  have stands : lengthWord 96 ++ lengthWord (96 + (writeBytes commands).length) ++
      (Word.ofUInt64 deadline).toBytes ++ writeBytes commands ++ writeBytesList inputs <+:
        arguments.drop 0 := by
    rw [List.drop_zero, written]
  simp only [Bytes.append_isPrefix_drop_iff, FixedBytes.length_toBytes, List.length_append,
    length_lengthWord, Nat.zero_add, Nat.reduceAdd] at stands
  obtain ⟨⟨⟨⟨firstStands, secondStands⟩, -⟩, commandsStand⟩, inputsStand⟩ := stands
  have inputsAt := toNat_ofNat_of_fits (show 96 + (writeBytes commands).length < UInt64.size by omega)
  have readFirst : readLength arguments 0 = some 96 :=
    readLength_eq_some_iff.2 ⟨by decide, firstStands⟩
  have readSecond : readLength arguments 32 = some (.ofNat (96 + (writeBytes commands).length)) := by
    rw [readLength_eq_some_iff, inputsAt]
    exact ⟨by decide, secondStands⟩
  have readCommands : readBytes arguments 0 96 = some commands := by
    refine readBytes_eq_some_iff.2 ⟨by change 0 + 96 + 32 + _ < _; omega, ?_⟩
    exact (List.prefix_append _ _).trans commandsStand
  have readInputs : readBytesList arguments (.ofNat (96 + (writeBytes commands).length)) =
      some inputs := by
    refine readBytesList_of_stands ?_ ?_
    · rw [inputsAt]
      exact inputsStand
    · rw [inputsAt]
      omega
  simp only [commandsAndInputs?, Option.bind_eq_bind, Option.bind_some, readFirst, readSecond,
    readCommands, readInputs]

theorem selector_execute {deadline : UInt64} :
    Selector.ofCalldata? (Calldata.execute commands inputs deadline) = some .routerExecute := by
  rw [Selector.ofCalldata?_eq_some_iff]
  simp only [Calldata.execute, List.append_assoc]
  exact List.prefix_append _ _

end Swap

end WalletPolicy

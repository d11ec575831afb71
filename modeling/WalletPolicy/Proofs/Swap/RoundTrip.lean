import WalletPolicy.Proofs.Swap.Calls

namespace WalletPolicy

open Abi

namespace Swap

variable {commands : Bytes} {inputs : List Bytes} {deadline : UInt64} {start place : Nat}

/-! ## Where the swap command is -/

theorem length_swapPlaces : (swapPlaces start commands).length = commands.count swapCommand := by
  induction commands generalizing start with
  | nil => rfl
  | cons command commands ih =>
      rw [swapPlaces, List.count_cons]
      split
      · rename_i isSwap
        rw [List.length_cons, ih, isSwap, if_pos (beq_self_eq_true _)]
      · rename_i other
        rw [ih, if_neg (by simpa using other), Nat.add_zero]

theorem mem_swapPlaces_iff :
    place ∈ swapPlaces start commands ↔
      ∃ index, commands[index]? = some swapCommand ∧ start + index = place := by
  induction commands generalizing start with
  | nil => simp [swapPlaces]
  | cons command commands ih =>
      have later : place ∈ swapPlaces (start + 1) commands ↔
          ∃ index, (command :: commands)[index + 1]? = some swapCommand ∧
            start + (index + 1) = place := by
        simp only [ih, List.getElem?_cons_succ, Nat.add_assoc, Nat.add_comm 1]
      rw [swapPlaces, ← Nat.or_exists_add_one, ← later]
      split <;> rename_i first <;> simp [first, eq_comm]

theorem swapPlaces_eq_singleton_iff :
    swapPlaces 0 commands = [place] ↔
      commands.count swapCommand = 1 ∧ commands[place]? = some swapCommand := by
  have member : place ∈ swapPlaces 0 commands ↔ commands[place]? = some swapCommand := by
    simp [mem_swapPlaces_iff]
  rw [← length_swapPlaces, ← member]
  constructor
  · intro single
    rw [single]
    exact ⟨rfl, List.mem_singleton_self _⟩
  · rintro ⟨single, member⟩
    obtain ⟨only, single⟩ := List.length_eq_one_iff.1 single
    rw [single] at member ⊢
    rw [List.mem_singleton.1 member]

/-! ## The whole call -/

theorem length_input_lt {input : Bytes} (isInput : input ∈ inputs)
    (fits : (Calldata.execute commands inputs deadline).length < UInt64.size) :
    input.length < UInt64.size := by
  have part : (writeBytes input).length ≤ (inputs.flatMap writeBytes).length :=
    (List.sublist_flatten_of_mem (List.mem_map_of_mem isInput)).length_le
  rw [length_execute, length_writeBytesList] at fits
  rw [length_writeBytes] at part
  omega

theorem ofCalldata?_execute_eq_some_iff {swap : Swap}
    (fits : (Calldata.execute commands inputs deadline).length < UInt64.size) :
    ofCalldata? (Calldata.execute commands inputs deadline) = some swap ↔
      inputs.length = commands.length ∧ commands.count swapCommand = 1 ∧
        ∃ (place : Nat) (input : Bytes), commands[place]? = some swapCommand ∧
          inputs[place]? = some input ∧ ofInput? commands input = some swap := by
  rw [ofCalldata?_eq_some_iff]
  simp only [commandsAndInputs?_execute fits, swapPlaces_eq_singleton_iff, selector_execute]
  constructor
  · rintro ⟨-, _, _, place, input, arguments, sameLength, ⟨single, isSwap⟩, isInput, read⟩
    obtain ⟨rfl, rfl⟩ := Prod.mk.inj (Option.some.inj arguments)
    exact ⟨sameLength, single, place, input, isSwap, isInput, read⟩
  · rintro ⟨sameLength, single, place, input, isSwap, isInput, read⟩
    exact ⟨trivial, _, _, place, input, rfl, sameLength, ⟨single, isSwap⟩, isInput, read⟩

theorem ofCalldata?_execute (commands : Bytes) (inputs : List Bytes) (deadline : UInt64)
    (fits : (Calldata.execute commands inputs deadline).length < UInt64.size) :
    (inputs.length ≠ commands.length ∨ commands.count swapCommand ≠ 1 →
      ofCalldata? (Calldata.execute commands inputs deadline) = none) ∧
    ∀ (place : Nat) (recipient : Address) (amountIn amountOutMin : UInt64)
      (tokens : List Address) (fees : List UInt32) (payerIsUser : Bool)
      (tokenIn tokenOut : Address) (fee : UInt32),
      inputs.length = commands.length → commands.count swapCommand = 1 →
      commands[place]? = some swapCommand →
      inputs[place]? = some (Calldata.swapInput recipient amountIn amountOutMin
        (Route.writePath tokens fees) payerIsUser) →
      tokens.length = fees.length + 1 → (∀ fee ∈ fees, fee.toNat < 2 ^ 24) →
      tokens.head? = some tokenIn → tokens.getLast? = some tokenOut → fees.head? = some fee →
      ofCalldata? (Calldata.execute commands inputs deadline) =
        some {
          tokenIn, tokenOut, amountIn, amountOutMin, fee, recipient, commands, payerIsUser
          isMultiHop := decide (1 < fees.length) } := by
  constructor
  · intro misshapen
    refine Option.eq_none_iff_forall_ne_some.2 fun swap read => ?_
    obtain ⟨sameLength, single, -⟩ := (ofCalldata?_execute_eq_some_iff fits).1 read
    rcases misshapen with different | notSingle
    · exact different sameLength
    · exact notSingle single
  · intro place recipient amountIn amountOutMin tokens fees payerIsUser tokenIn tokenOut fee
      sameLength single isSwap isInput hops small first last firstFee
    refine (ofCalldata?_execute_eq_some_iff fits).2
      ⟨sameLength, single, place, _, isSwap, isInput, ?_⟩
    have route := Route.ofPath?_writePath hops first last firstFee
      (small fee (List.mem_of_mem_head? firstFee))
    have inputFits := length_input_lt (List.mem_of_getElem? isInput) fits
    rw [length_swapInput, length_writeBytes] at inputFits
    exact ofInput?_swapInput route (by omega)

def oddInputs : List Bytes :=
  [[1, 2, 3], Calldata.swapInput (.ofNat 7) 5 4
    (Route.writePath [.ofNat 1, .ofNat 2, .ofNat 3] [500, 3000]) true, []]

theorem ofCalldata?_oddInputs :
    ofCalldata? (Calldata.execute [wrapCommand, swapCommand, 0x8c] oddInputs 0) =
      some ⟨.ofNat 1, .ofNat 3, 5, 4, 500, .ofNat 7, [wrapCommand, swapCommand, 0x8c], true,
        true⟩ := by
  have fits : (Calldata.execute [wrapCommand, swapCommand, 0x8c] oddInputs 0).length <
      UInt64.size := by decide +kernel
  exact (ofCalldata?_execute _ oddInputs 0 fits).2 1 (.ofNat 7) 5 4
    [.ofNat 1, .ofNat 2, .ofNat 3] [500, 3000] true (.ofNat 1) (.ofNat 3) 500
    rfl rfl rfl rfl rfl (by simp) rfl rfl rfl

end Swap

end WalletPolicy

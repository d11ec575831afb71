import WalletPolicy.Proofs.Swap.Calls

/-!
# Bytes after a call

Every offset is counted from the front, and a read ends where its own length says. So a reader that
finds something in data finds the same in all data that starts with it.
-/

namespace WalletPolicy

namespace Abi

variable {α β : Type}

/-- What the reader finds in data it finds in all data that starts with it. -/
def IgnoresRest (read : Bytes → Option α) : Prop :=
  ∀ ⦃data value⦄ (rest : Bytes), read data = some value → read (data ++ rest) = some value

theorem ignoresRest_const (found : Option α) : IgnoresRest fun _ => found :=
  fun _ _ _ same => same

theorem IgnoresRest.bind {read : Bytes → Option α} {next : α → Bytes → Option β}
    (first : IgnoresRest read) (second : ∀ value, IgnoresRest (next value)) :
    IgnoresRest fun data => (read data).bind fun value => next value data := by
  intro data result rest found
  obtain ⟨value, here, there⟩ := Option.bind_eq_some_iff.1 found
  exact Option.bind_eq_some_iff.2 ⟨value, first rest here, second value rest there⟩

/-! ## Words and byte strings -/

theorem ignoresRest_sliceAt? (offset length : UInt64) :
    IgnoresRest fun data => sliceAt? data offset length := by
  intro data piece rest found
  obtain ⟨fits, inside, size, stands⟩ := sliceAt?_eq_some_iff.1 found
  refine sliceAt?_eq_some_iff.2 ⟨fits, ?_, size, stands.trans ?_⟩
  · rw [List.length_append]
    omega
  · exact (List.prefix_append data rest).drop _

theorem ignoresRest_readLength (offset : UInt64) :
    IgnoresRest fun data => readLength data offset :=
  ((ignoresRest_sliceAt? offset 32).bind fun _ => ignoresRest_const _).bind fun _ =>
    ignoresRest_const _

theorem ignoresRest_readBytes (base offset : UInt64) :
    IgnoresRest fun data => readBytes data base offset :=
  (ignoresRest_const _).bind fun start => (ignoresRest_readLength start).bind fun length =>
    (ignoresRest_const _).bind fun body => ignoresRest_sliceAt? body length

theorem ignoresRest_readElement (head : UInt64) (index : Nat) :
    IgnoresRest fun data => readElement data head index :=
  (ignoresRest_const _).bind fun slot => (ignoresRest_readLength slot).bind fun offset =>
    ignoresRest_readBytes head offset

theorem ignoresRest_readElements (head : UInt64) (index count : Nat) :
    IgnoresRest fun data => readElements data head index count := by
  induction count generalizing index with
  | zero => exact ignoresRest_const _
  | succ count ih =>
      exact (ignoresRest_readElement head index).bind fun element =>
        (ih (index + 1)).bind fun others => ignoresRest_const _

theorem ignoresRest_readBytesList (offset : UInt64) :
    IgnoresRest fun data => readBytesList data offset :=
  (ignoresRest_readLength offset).bind fun count => (ignoresRest_const _).bind fun head =>
    ignoresRest_readElements head 0 count.toNat

end Abi

open Abi

/-! ## Router calls -/

namespace Swap

theorem ignoresRest_commandsAndInputs? : IgnoresRest commandsAndInputs? :=
  (ignoresRest_readLength 0).bind fun commandsOffset =>
    (ignoresRest_readBytes 0 commandsOffset).bind fun _ =>
      (ignoresRest_readLength 32).bind fun inputsOffset =>
        (ignoresRest_readBytesList inputsOffset).bind fun _ => ignoresRest_const _

theorem ignoresRest_ofCalldata? : IgnoresRest ofCalldata? := by
  intro calldata swap rest read
  obtain ⟨start, commands, inputs, place, input, arguments, found⟩ :=
    ofCalldata?_eq_some_iff.1 read
  rw [Selector.ofCalldata?_eq_some_iff] at start
  have long : 4 ≤ calldata.length := by
    have size := start.length_le
    rwa [Selector.toBytes, FixedBytes.length_toBytes] at size
  refine ofCalldata?_eq_some_iff.2 ⟨?_, commands, inputs, place, input, ?_, found⟩
  · rw [Selector.ofCalldata?_eq_some_iff]
    exact start.trans (List.prefix_append calldata rest)
  · -- The arguments start at the same place, and the rest comes after them.
    rw [List.drop_append_of_le_length long]
    exact ignoresRest_commandsAndInputs? rest arguments

end Swap

namespace Intent

variable {intent : Intent} {registries : Registries} {swap : Swap}

theorem decode_of_means_swap (means : intent.Means registries (.swap swap)) :
    intent.decode registries =
      ⟨.swap swap, true, swap.summary intent.value, some .routerExecute⟩ := by
  obtain ⟨start, listed, read⟩ := means
  obtain ⟨method, listed⟩ := Option.isSome_iff_exists.1 listed
  have other : ¬ (Selector.routerExecute = .tokenTransfer ∧
      tokenTransferLength ≤ intent.calldata.length) := fun same => absurd same.1 (by decide)
  rw [decode, if_neg (by simpa using calldata_ne_nil start), start]
  simp only [if_neg other, listed, decodeMethod, if_true, read]

/-- Bytes behind a router call change nothing: the same swap is read, and a call that is understood as
a swap is understood and described as before. -/
theorem decode_append_of_swap (rest : Bytes) :
    (∀ calldata swap, Swap.ofCalldata? calldata = some swap →
      Swap.ofCalldata? (calldata ++ rest) = some swap) ∧
    ∀ (intent : Intent) (registries : Registries) (swap : Swap),
      (intent.decode registries).isKnown = true → (intent.decode registries).action = .swap swap →
      { intent with calldata := intent.calldata ++ rest }.decode registries =
        intent.decode registries := by
  refine ⟨fun _ _ => Swap.ignoresRest_ofCalldata? rest, ?_⟩
  intro intent registries swap known isSwap
  have means : intent.Means registries (.swap swap) := known_decode_iff.1 ⟨known, isSwap⟩
  have longer : { intent with calldata := intent.calldata ++ rest }.Means registries
      (.swap swap) := by
    obtain ⟨start, listed, read⟩ := means
    have readLonger := Swap.ignoresRest_ofCalldata? rest read
    exact ⟨(Swap.ofCalldata?_eq_some_iff.1 readLonger).1, listed, readLonger⟩
  rw [decode_of_means_swap means, decode_of_means_swap longer]

def nativeCall : Intent :=
  { (default : Intent) with
    chainId := base
    target := ProtocolTable.router
    value := 7
    calldata := Calldata.nativeSwap senderMarker ProtocolTable.wrappedBase (.ofNat 3) 500 7 5 }

def nativeCallSwap : Swap :=
  ⟨ProtocolTable.wrappedBase, .ofNat 3, 7, 5, 500, senderMarker, [wrapCommand, swapCommand], false,
    false⟩

theorem decode_append_nativeCall :
    let registries := Registries.ofTables .builtIn (.forProfile "balanced")
    let longer := { nativeCall with calldata := nativeCall.calldata ++ [0xde, 0xad, 0x00] }
    (nativeCall.decode registries).isKnown = true ∧
      (nativeCall.decode registries).action = .swap nativeCallSwap ∧
      Swap.ofCalldata? longer.calldata = some nativeCallSwap ∧
      longer.decode registries = nativeCall.decode registries := by
  intro registries longer
  have known : (nativeCall.decode registries).isKnown = true := by decide +kernel
  have isSwap : (nativeCall.decode registries).action = .swap nativeCallSwap := by decide +kernel
  have read : Swap.ofCalldata? nativeCall.calldata = some nativeCallSwap := by decide +kernel
  obtain ⟨calls, decoded⟩ := decode_append_of_swap [0xde, 0xad, 0x00]
  exact ⟨known, isSwap, calls _ _ read, decoded nativeCall registries nativeCallSwap known isSwap⟩

end Intent

end WalletPolicy

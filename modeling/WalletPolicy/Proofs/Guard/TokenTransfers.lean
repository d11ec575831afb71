import Mathlib.Logic.Basic
import WalletPolicy.Proofs.Abi.Words
import WalletPolicy.Proofs.Guard.Decoding

namespace WalletPolicy

open Abi

/-! ## The written form -/

namespace Calldata

variable {calldata : Bytes} {recipient : Address} {amount : UInt64}

theorem length_transfer : (transfer recipient amount).length = Intent.tokenTransferLength := by
  simp [transfer, Selector.toBytes, Intent.tokenTransferLength]

theorem take_eq_transfer_iff :
    calldata.take Intent.tokenTransferLength = transfer recipient amount ↔
      transfer recipient amount <+: calldata := by
  rw [List.prefix_iff_eq_take, length_transfer, eq_comm]

theorem transfer_isPrefix_iff :
    transfer recipient amount <+: calldata ↔
      Selector.ofCalldata? calldata = some .tokenTransfer ∧
        readAddress calldata 4 = some recipient ∧ readUInt64 calldata 36 = some amount := by
  -- With `drop 0` in front every field is split off by the same lemma.
  have fields : transfer recipient amount <+: calldata.drop 0 ↔
      (Selector.tokenTransfer.toBytes <+: calldata.drop 0 ∧
        (Word.ofAddress recipient).toBytes <+: calldata.drop 4) ∧
        (Word.ofUInt64 amount).toBytes <+: calldata.drop 36 := by
    simp only [transfer, Bytes.append_isPrefix_drop_iff, List.length_append, Selector.toBytes,
      FixedBytes.length_toBytes, Nat.zero_add, Nat.reduceAdd]
  rw [List.drop_zero] at fields
  rw [fields, and_assoc, Selector.ofCalldata?_eq_some_iff, readAddress_eq_some_iff,
    readUInt64_eq_some_iff]
  have first : (4 : UInt64).toNat + 32 < UInt64.size := by decide
  have second : (36 : UInt64).toNat + 32 < UInt64.size := by decide
  simp only [first, second, true_and]
  rfl

end Calldata

namespace Intent

variable {intent : Intent} {registries : Registries} {token recipient : Address} {amount : UInt64}

/-! ## The decoder -/

theorem decode_of_tokenTransfer (start : intent.selector? = some .tokenTransfer)
    (long : tokenTransferLength ≤ intent.calldata.length) :
    intent.decode registries = intent.decodeTokenTransfer registries := by
  rw [decode, if_neg (by simpa using calldata_ne_nil start), start]
  exact if_pos ⟨rfl, long⟩

theorem decodeTokenTransfer_cases (intent : Intent) (registries : Registries) :
    (∃ recipient amount, readAddress intent.calldata 4 = some recipient ∧
      readUInt64 intent.calldata 36 = some amount ∧
      (intent.decodeTokenTransfer registries).action =
        .tokenTransfer intent.target recipient amount ∧
      (intent.decodeTokenTransfer registries).isKnown =
        registries.isStablecoin intent.chainId intent.target) ∨
    ((∀ recipient amount, readAddress intent.calldata 4 = some recipient →
      readUInt64 intent.calldata 36 ≠ some amount) ∧
      (intent.decodeTokenTransfer registries).action = .unknown ∧
      (intent.decodeTokenTransfer registries).isKnown = false) := by
  unfold decodeTokenTransfer
  dsimp only
  split
  · rename_i recipient amount readRecipient readAmount
    refine .inl ⟨recipient, amount, readRecipient, readAmount, ?_⟩
    split <;> rename_i registered <;> simp [registered]
  · rename_i unread
    exact .inr ⟨unread, rfl, rfl⟩

theorem action_decodeTokenTransfer_eq_iff :
    (intent.decodeTokenTransfer registries).action = .tokenTransfer token recipient amount ↔
      token = intent.target ∧ readAddress intent.calldata 4 = some recipient ∧
        readUInt64 intent.calldata 36 = some amount := by
  rcases decodeTokenTransfer_cases intent registries with
    ⟨_, _, readRecipient, readAmount, action, -⟩ | ⟨unread, action, -⟩
  · rw [readRecipient, readAmount, action]
    simp [eq_comm]
  · rw [action]
    simp only [reduceCtorEq, false_iff]
    rintro ⟨-, readRecipient, readAmount⟩
    exact unread _ _ readRecipient readAmount

theorem action_decodeMethod_ne {selector : Selector} {method : ProtocolMethod} :
    (intent.decodeMethod selector method).action ≠ .tokenTransfer token recipient amount := by
  unfold decodeMethod
  split
  · split <;> simp
  · simp

theorem tokenTransfer_of_action
    (isTransfer : (intent.decode registries).action = .tokenTransfer token recipient amount) :
    intent.selector? = some .tokenTransfer ∧ tokenTransferLength ≤ intent.calldata.length := by
  rw [decode] at isTransfer
  split at isTransfer
  · cases isTransfer
  · split at isTransfer
    · cases isTransfer
    · rename_i selector start
      split at isTransfer
      · rename_i shape
        exact ⟨start.trans (congrArg some shape.1), shape.2⟩
      · split at isTransfer
        · exact absurd isTransfer action_decodeMethod_ne
        · cases isTransfer

theorem action_decode_eq_tokenTransfer_iff :
    (intent.decode registries).action = .tokenTransfer token recipient amount ↔
      token = intent.target ∧ Calldata.transfer recipient amount <+: intent.calldata := by
  rw [Calldata.transfer_isPrefix_iff]
  constructor
  · intro isTransfer
    obtain ⟨start, long⟩ := tokenTransfer_of_action isTransfer
    rw [decode_of_tokenTransfer start long, action_decodeTokenTransfer_eq_iff] at isTransfer
    exact ⟨isTransfer.1, start, isTransfer.2⟩
  · rintro ⟨own, start, read⟩
    have long := (Calldata.transfer_isPrefix_iff.2 ⟨start, read⟩).length_le
    rw [Calldata.length_transfer] at long
    rw [decode_of_tokenTransfer start long, action_decodeTokenTransfer_eq_iff]
    exact ⟨own, read⟩

/-- The decoder accepts the canonical bytes of a token transfer and no others, under any registries:
what has the selector and the length of a transfer but not its form stays unknown. -/
theorem decode_tokenTransfer_iff_written (intent : Intent) (registries : Registries) :
    (∀ token recipient amount,
      ((intent.decode registries).action = .tokenTransfer token recipient amount ↔
        token = intent.target ∧
          intent.calldata.take tokenTransferLength = Calldata.transfer recipient amount) ∧
      ((intent.decode registries).action = .tokenTransfer token recipient amount →
        ((intent.decode registries).isKnown = true ↔
          registries.isStablecoin intent.chainId intent.target = true))) ∧
    (intent.calldata.take 4 = Selector.tokenTransfer.toBytes →
      tokenTransferLength ≤ intent.calldata.length →
      (∀ recipient amount,
        intent.calldata.take tokenTransferLength ≠ Calldata.transfer recipient amount) →
      (intent.decode registries).action = .unknown ∧ (intent.decode registries).isKnown = false) := by
  refine ⟨fun token recipient amount => ⟨?_, fun isTransfer => ?_⟩, fun starts long other => ?_⟩
  · rw [Calldata.take_eq_transfer_iff, action_decode_eq_tokenTransfer_iff]
  · obtain ⟨start, long⟩ := tokenTransfer_of_action isTransfer
    rw [decode_of_tokenTransfer start long] at isTransfer ⊢
    rcases decodeTokenTransfer_cases intent registries with ⟨_, _, -, -, -, known⟩ | ⟨-, unknown, -⟩
    · rw [known]
    · rw [unknown] at isTransfer
      cases isTransfer
  · have start : intent.selector? = some .tokenTransfer :=
      Selector.ofCalldata?_eq_some_iff.2 (starts ▸ List.take_prefix 4 intent.calldata)
    rw [decode_of_tokenTransfer start long]
    rcases decodeTokenTransfer_cases intent registries with
      ⟨recipient, amount, readRecipient, readAmount, -⟩ | ⟨-, unknown⟩
    · have written := Calldata.transfer_isPrefix_iff.2 ⟨start, readRecipient, readAmount⟩
      exact absurd (Calldata.take_eq_transfer_iff.2 written) (other recipient amount)
    · exact unknown

def openRegistries : Registries := ⟨fun _ _ => true, fun _ _ _ => some ⟨"Token", "transfer"⟩⟩

def longTransfer : Intent :=
  { (default : Intent) with calldata := Calldata.transfer senderMarker 7 ++ [1, 2, 3] }

def wideTransfer : Intent :=
  { (default : Intent) with
    calldata := Selector.tokenTransfer.toBytes ++ Bytes.ofNat 32 (2 ^ 160 + 1) ++
      (Word.ofUInt64 7).toBytes }

theorem decode_longTransfer_wideTransfer :
    (longTransfer.decode openRegistries).action = .tokenTransfer default senderMarker 7 ∧
      (longTransfer.decode openRegistries).isKnown = true ∧
      (wideTransfer.decode openRegistries).action = .unknown ∧
      (wideTransfer.decode openRegistries).isKnown = false := by
  have exact := decode_tokenTransfer_iff_written longTransfer openRegistries
  have isTransfer := (exact.1 default senderMarker 7).1.2 ⟨rfl, by decide +kernel⟩
  have dirty : readAddress wideTransfer.calldata 4 = none := by decide +kernel
  refine ⟨isTransfer, ((exact.1 _ _ _).2 isTransfer).2 rfl, ?_⟩
  refine (decode_tokenTransfer_iff_written wideTransfer openRegistries).2 (by decide +kernel)
    (by decide +kernel) fun recipient amount written => ?_
  have read := (Calldata.transfer_isPrefix_iff.1 (Calldata.take_eq_transfer_iff.1 written)).2.1
  rw [dirty] at read
  cases read

end Intent

end WalletPolicy

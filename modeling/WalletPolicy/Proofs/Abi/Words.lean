import Mathlib
import WalletPolicy.Abi.Word

namespace WalletPolicy

namespace Bytes

variable {data piece first second : Bytes} {offset length : Nat}

theorem append_isPrefix_drop_iff :
    first ++ second <+: data.drop offset ↔
      first <+: data.drop offset ∧ second <+: data.drop (offset + first.length) := by
  rw [← List.drop_drop]
  constructor
  · rintro ⟨rest, split⟩
    rw [← split, List.append_assoc, List.drop_left]
    exact ⟨List.prefix_append _ _, List.prefix_append _ _⟩
  · rintro ⟨⟨rest, split⟩, starts⟩
    rw [← split, List.drop_left] at starts
    rw [← split]
    exact (List.prefix_append_right_inj _).2 starts

theorem length_le_of_isPrefix_drop (stands : piece <+: data.drop offset) :
    piece.length ≤ data.length - offset := by
  simpa using stands.length_le

theorem slice?_eq_some_iff :
    slice? data offset length = some piece ↔
      offset + length ≤ data.length ∧ piece.length = length ∧ piece <+: data.drop offset := by
  unfold slice?
  split
  · rename_i inside
    rw [Option.some_inj]
    constructor
    · rintro rfl
      refine ⟨inside, ?_, List.take_prefix _ _⟩
      rw [List.length_take, List.length_drop]
      omega
    · rintro ⟨-, rfl, stands⟩
      exact (List.prefix_iff_eq_take.1 stands).symm
  · rename_i outside
    simp [outside]

theorem allZero_iff : allZero data = true ↔ data = List.replicate data.length 0 := by
  simp [allZero, List.eq_replicate_iff]

theorem toNat_ofNat (width n : Nat) : toNat (ofNat width n) = n % 256 ^ width := by
  induction width generalizing n with
  | zero => simp [ofNat, toNat, Nat.mod_one]
  | succ width ih =>
    have low : (UInt8.ofNat n).toNat = n % 256 := by simp
    rw [ofNat, toNat_append_singleton, ih, low, Nat.pow_succ, Nat.mul_comm (256 ^ width),
      Nat.mod_mul]
    omega

theorem toNat_lt (data : Bytes) : toNat data < 256 ^ data.length := by
  rw [← ofNat_toNat data, toNat_ofNat, length_ofNat]
  exact Nat.mod_lt _ (Nat.pow_pos (by decide))

end Bytes

theorem FixedBytes.toNat_ofNat {size : Nat} (n : Nat) :
    (ofNat n : FixedBytes size).toNat = n % 256 ^ size :=
  Bytes.toNat_ofNat size n

namespace Abi

/-! ## Words -/

namespace Word

theorem toBytes_eq_iff {word : Word} {width : Nat} {rest : Bytes} (size : width + rest.length = 32) :
    word.toBytes = List.replicate width 0 ++ rest ↔
      Bytes.allZero (word.toBytes.take width) = true ∧ word.toBytes.drop width = rest := by
  have taken : (word.toBytes.take width).length = width := by
    rw [List.length_take, word.length_eq]
    omega
  rw [Bytes.allZero_iff, taken]
  constructor
  · intro same
    rw [same]
    simp
  · rintro ⟨zeros, rfl⟩
    rw [← zeros, List.take_append_drop]

theorem toUInt64?_eq_some_iff {word : Word} {value : UInt64} :
    word.toUInt64? = some value ↔ word = .ofUInt64 value := by
  have low : word.toBytes.drop 24 = Bytes.ofNat 8 value.toNat ↔
      UInt64.ofNat (Bytes.toNat (word.toBytes.drop 24)) = value := by
    have size : (word.toBytes.drop 24).length = 8 := by rw [List.length_drop, word.length_eq]
    have small : Bytes.toNat (word.toBytes.drop 24) < 2 ^ 64 := by
      have bound := Bytes.toNat_lt (word.toBytes.drop 24)
      rw [size] at bound
      omega
    constructor
    · intro same
      rw [same, Bytes.toNat_ofNat, ← UInt64.toNat_inj]
      have := value.toNat_lt
      simp only [UInt64.toNat_ofNat']
      omega
    · rintro rfl
      rw [UInt64.toNat_ofNat', Nat.mod_eq_of_lt small]
      exact (size ▸ Bytes.ofNat_toNat (word.toBytes.drop 24)).symm
  rw [FixedBytes.ext_iff, ofUInt64, toBytes_eq_iff (by simp), low, toUInt64?]
  split <;> rename_i padded <;> simp [padded]

theorem toAddress?_eq_some_iff {word : Word} {address : Address} :
    word.toAddress? = some address ↔ word = .ofAddress address := by
  rw [FixedBytes.ext_iff, ofAddress, toBytes_eq_iff (by simp [Address.toBytes]), toAddress?]
  split
  · rename_i padded
    simp only [Address.ofBytes?_eq_some_iff, padded, true_and]
  · rename_i dirty
    simp [dirty]

theorem toBool?_eq_some_iff {word : Word} {value : Bool} :
    word.toBool? = some value ↔ word = .ofBool value := by
  rw [ofBool, ← toUInt64?_eq_some_iff, toBool?]
  split
  · rename_i zero
    cases value <;> simp [zero]
  · rename_i one
    cases value <;> simp [one]
  · rename_i notZero notOne
    cases value <;> simp_all

end Word

/-! ## Readers -/

variable {data piece : Bytes} {base offset length value : UInt64}

theorem addOffset?_eq_some_iff :
    addOffset? base offset = some value ↔ value.toNat = base.toNat + offset.toNat := by
  have bound := value.toNat_lt_size
  unfold addOffset?
  split
  · rename_i fits
    rw [Option.some_inj, ← UInt64.toNat_inj, UInt64.toNat_add, Nat.mod_eq_of_lt fits, eq_comm]
  · rename_i overflow
    simp only [reduceCtorEq, false_iff]
    omega

theorem sliceAt?_eq_some_iff :
    sliceAt? data offset length = some piece ↔
      offset.toNat + length.toNat < UInt64.size ∧ offset.toNat + length.toNat ≤ data.length ∧
        piece.length = length.toNat ∧ piece <+: data.drop offset.toNat := by
  rw [← Bytes.slice?_eq_some_iff]
  unfold sliceAt? addOffset?
  split
  · rename_i fits
    simp only [Option.bind_eq_bind, Option.bind_some, fits, true_and]
  · rename_i overflow
    simp only [Option.bind_eq_bind, Option.bind_none, reduceCtorEq, overflow, false_and]

theorem readWord_eq_some_iff {word : Word} :
    readWord data offset = some word ↔
      offset.toNat + 32 < UInt64.size ∧ word.toBytes <+: data.drop offset.toNat := by
  simp only [readWord, Option.bind_eq_bind, Option.bind_eq_some_iff, sliceAt?_eq_some_iff,
    FixedBytes.ofBytes?_eq_some_iff]
  constructor
  · rintro ⟨piece, ⟨fits, -, -, stands⟩, rfl⟩
    exact ⟨fits, stands⟩
  · rintro ⟨fits, stands⟩
    have inside := Bytes.length_le_of_isPrefix_drop stands
    rw [word.length_eq] at inside
    exact ⟨_, ⟨fits, by change offset.toNat + 32 ≤ _; omega, word.length_eq, stands⟩, rfl⟩

theorem readUInt64_eq_some_iff :
    readUInt64 data offset = some value ↔
      offset.toNat + 32 < UInt64.size ∧ (Word.ofUInt64 value).toBytes <+: data.drop offset.toNat := by
  simp [readUInt64, Option.bind_eq_some_iff, Word.toUInt64?_eq_some_iff, readWord_eq_some_iff]

theorem readAddress_eq_some_iff {address : Address} :
    readAddress data offset = some address ↔
      offset.toNat + 32 < UInt64.size ∧ (Word.ofAddress address).toBytes <+: data.drop offset.toNat := by
  simp [readAddress, Option.bind_eq_some_iff, Word.toAddress?_eq_some_iff, readWord_eq_some_iff]

theorem readBool_eq_some_iff {truth : Bool} :
    readBool data offset = some truth ↔
      offset.toNat + 32 < UInt64.size ∧ (Word.ofBool truth).toBytes <+: data.drop offset.toNat := by
  simp [readBool, Option.bind_eq_some_iff, Word.toBool?_eq_some_iff, readWord_eq_some_iff]

end Abi

end WalletPolicy

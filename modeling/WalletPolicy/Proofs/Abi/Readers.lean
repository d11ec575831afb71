import WalletPolicy.Proofs.Abi.Commitment

/-!
# Readers undo packing

A word is read exactly where it stands, so what was packed word by word is read back word by word
(`Abi.readers_invert_packing`).
-/

namespace WalletPolicy.Abi

variable {data : Bytes} {offset : UInt64} {word : Word}

/-! ## A word at an offset -/

structure Word.StandsAt (word : Word) (data : Bytes) (offset : UInt64) : Prop where
  noWrap : offset.toNat + 32 < UInt64.size
  inside : offset.toNat + 32 ≤ data.length
  same : (data.drop offset.toNat).take 32 = word.toBytes

theorem Word.standsAt_iff :
    word.StandsAt data offset ↔
      offset.toNat + 32 < UInt64.size ∧ word.toBytes <+: data.drop offset.toNat := by
  constructor
  · rintro ⟨noWrap, -, same⟩
    exact ⟨noWrap, same ▸ List.take_prefix 32 _⟩
  · rintro ⟨noWrap, stands⟩
    have room := Bytes.length_le_of_isPrefix_drop stands
    have same := List.prefix_iff_eq_take.1 stands
    rw [word.length_eq] at room same
    exact ⟨noWrap, by omega, same.symm⟩

/-! ## Packed words -/

namespace Item

/-- What is read where the item stands, with the reader of its kind. A digest is read as a word, and
so are a number of 128 bits and raw bytes. -/
def ReadsBack (item : Item) (data : Bytes) (offset : UInt64) : Prop :=
  match item with
  | .raw bytes => (readWord data offset).map FixedBytes.toBytes = some bytes
  | .word value => readWord data offset = some value
  | .address value => readAddress data offset = some value
  | .uint64 value => readUInt64 data offset = some value
  | .uint128 value => readWord data offset = some (.ofUInt128 value)
  | .flag value => readBool data offset = some value
  | .digest value => (readWord data offset).map Digest.mk = some value
  | .hashed bytes => (readWord data offset).map Digest.mk = some (.of bytes)

theorem readsBack_of_isPrefix {item : Item} (isWord : item.width = 32)
    (noWrap : offset.toNat + 32 < UInt64.size) (stands : item.encode <+: data.drop offset.toNat) :
    item.ReadsBack data offset := by
  cases item with
  | raw bytes =>
      have read : readWord data offset = some ⟨bytes, isWord⟩ :=
        readWord_eq_some_iff.2 ⟨noWrap, stands⟩
      exact congrArg (Option.map FixedBytes.toBytes) read
  | word value => exact readWord_eq_some_iff.2 ⟨noWrap, stands⟩
  | address value => exact readAddress_eq_some_iff.2 ⟨noWrap, stands⟩
  | uint64 value => exact readUInt64_eq_some_iff.2 ⟨noWrap, stands⟩
  | uint128 value => exact readWord_eq_some_iff.2 ⟨noWrap, stands⟩
  | flag value => exact readBool_eq_some_iff.2 ⟨noWrap, stands⟩
  | digest value =>
      have read : readWord data offset = some value.bytes :=
        readWord_eq_some_iff.2 ⟨noWrap, stands⟩
      exact congrArg (Option.map Digest.mk) read
  | hashed bytes =>
      have read : readWord data offset = some (Digest.of bytes).bytes :=
        readWord_eq_some_iff.2 ⟨noWrap, stands⟩
      exact congrArg (Option.map Digest.mk) read

end Item

theorem encode_isPrefix_drop_pack {items : List Item} {place : Nat} {item : Item}
    (words : ∀ item ∈ items, item.width = 32) (found : items[place]? = some item) :
    item.encode <+: (pack items).drop (32 * place) := by
  induction items generalizing place with
  | nil => cases found
  | cons first others ih =>
      obtain ⟨isWord, otherWords⟩ := List.forall_mem_cons.1 words
      rw [pack_cons]
      cases place with
      | zero =>
          obtain rfl : first = item := Option.some.inj found
          exact List.prefix_append _ _
      | succ place =>
          have width : first.encode.length = 32 := (Item.length_encode first).trans isWord
          have behindFirst : (first.encode ++ pack others).drop (32 * (place + 1)) =
              (pack others).drop (32 * place) := by
            rw [Nat.mul_succ, Nat.add_comm, ← List.drop_drop, List.drop_left' width]
          rw [behindFirst]
          exact ih otherWords found

theorem length_pack_of_words {items : List Item} (words : ∀ item ∈ items, item.width = 32) :
    (pack items).length = 32 * items.length := by
  rw [length_pack, List.map_congr_left words, List.map_const', List.sum_replicate, smul_eq_mul,
    Nat.mul_comm]

/-- A reader finds exactly what is packed as the word at an offset, and words that are packed in a row
are read back, each at its place. -/
theorem readers_invert_packing :
    (∀ (data : Bytes) (offset : UInt64),
      (∀ word, readWord data offset = some word ↔ word.StandsAt data offset) ∧
      (∀ value, readUInt64 data offset = some value ↔
        (Word.ofUInt64 value).StandsAt data offset) ∧
      (∀ address, readAddress data offset = some address ↔
        (Word.ofAddress address).StandsAt data offset) ∧
      (∀ truth, readBool data offset = some truth ↔ (Word.ofBool truth).StandsAt data offset) ∧
      readLength data offset = readUInt64 data offset) ∧
    ∀ items : List Item, (∀ item ∈ items, item.width = 32) → (pack items).length < UInt64.size →
      ∀ (place : Nat) (item : Item), items[place]? = some item →
        item.ReadsBack (pack items) (.ofNat (32 * place)) := by
  constructor
  · intro data offset
    refine ⟨fun word => ?word, fun value => ?uint64, fun address => ?address, fun truth => ?truth, rfl⟩
    case word => rw [readWord_eq_some_iff, Word.standsAt_iff]
    case uint64 => rw [readUInt64_eq_some_iff, Word.standsAt_iff]
    case address => rw [readAddress_eq_some_iff, Word.standsAt_iff]
    case truth => rw [readBool_eq_some_iff, Word.standsAt_iff]
  · intro items words fits place item found
    obtain ⟨inside, -⟩ := List.getElem?_eq_some_iff.1 found
    rw [length_pack_of_words words] at fits
    have offsetAt : (UInt64.ofNat (32 * place)).toNat = 32 * place :=
      UInt64.toNat_ofNat_of_lt' (by omega)
    have isWord := words item (List.mem_of_getElem? found)
    refine Item.readsBack_of_isPrefix isWord ?_ ?_
    · rw [offsetAt]
      omega
    · rw [offsetAt]
      exact encode_isPrefix_drop_pack words found

def mixedItems : List Item :=
  [.address (.ofNat 0xcafe), .uint64 0xFFFFFFFFFFFFFFFF, .flag true, .digest ⟨.ofNat 7⟩,
    .word (.ofHalves 1 2), .uint128 5]

theorem readsBack_mixedItems :
    (∀ item ∈ mixedItems, item.width = 32) ∧ (pack mixedItems).length < UInt64.size ∧
      readAddress (pack mixedItems) 0 = some (.ofNat 0xcafe) ∧
      readUInt64 (pack mixedItems) 32 = some 0xFFFFFFFFFFFFFFFF ∧
      readBool (pack mixedItems) 64 = some true ∧
      readWord (pack mixedItems) 128 = some (.ofHalves 1 2) := by
  have words : ∀ item ∈ mixedItems, item.width = 32 := by decide
  have fits : (pack mixedItems).length < UInt64.size := by
    rw [length_pack_of_words words]
    decide
  have readsBack := readers_invert_packing.2 mixedItems words fits
  exact ⟨words, fits, readsBack 0 _ rfl, readsBack 1 _ rfl, readsBack 2 _ rfl, readsBack 4 _ rfl⟩

end WalletPolicy.Abi

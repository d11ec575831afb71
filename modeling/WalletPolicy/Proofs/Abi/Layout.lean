import WalletPolicy.Abi.Dynamic
import WalletPolicy.Proofs.Abi.Words

namespace WalletPolicy.Abi

variable {data piece : Bytes} {base offset head : UInt64} {elements : List Bytes}

@[simp] theorem length_lengthWord (length : Nat) : (lengthWord length).length = 32 :=
  FixedBytes.length_toBytes _

theorem toNat_ofNat_of_fits {place : Nat} (fits : place < UInt64.size) :
    (UInt64.ofNat place).toNat = place :=
  UInt64.toNat_ofNat_of_lt' fits

theorem readLength_eq_some_iff {length : UInt64} :
    readLength data offset = some length ↔
      offset.toNat + 32 < UInt64.size ∧ lengthWord length.toNat <+: data.drop offset.toNat := by
  rw [lengthWord, UInt64.ofNat_toNat]
  exact readUInt64_eq_some_iff

theorem readBytes_eq_some_iff :
    readBytes data base offset = some piece ↔
      base.toNat + offset.toNat + 32 + piece.length < UInt64.size ∧
        lengthWord piece.length ++ piece <+: data.drop (base.toNat + offset.toNat) := by
  simp only [readBytes, Option.bind_eq_bind, Option.bind_eq_some_iff, addOffset?_eq_some_iff,
    readLength_eq_some_iff, sliceAt?_eq_some_iff, Bytes.append_isPrefix_drop_iff, length_lengthWord,
    show (32 : UInt64).toNat = 32 from rfl]
  constructor
  · rintro ⟨start, startsAt, length, ⟨-, lengthStands⟩, body, bodyAt, fits, -, size, stands⟩
    rw [bodyAt, startsAt] at stands fits
    rw [startsAt] at lengthStands
    rw [size]
    exact ⟨fits, lengthStands, stands⟩
  · rintro ⟨fits, lengthStands, stands⟩
    have startsAt := toNat_ofNat_of_fits (show base.toNat + offset.toNat < UInt64.size by omega)
    have bodyAt := toNat_ofNat_of_fits (show base.toNat + offset.toNat + 32 < UInt64.size by omega)
    have size := toNat_ofNat_of_fits (show piece.length < UInt64.size by omega)
    refine ⟨_, startsAt, .ofNat piece.length, ?_, .ofNat (base.toNat + offset.toNat + 32), ?_, ?_⟩
    · rw [startsAt, size]
      exact ⟨by omega, lengthStands⟩
    · rw [bodyAt, startsAt]
    · have room := Bytes.length_le_of_isPrefix_drop lengthStands
      have inside := Bytes.length_le_of_isPrefix_drop stands
      rw [length_lengthWord] at room
      rw [bodyAt, size]
      exact ⟨fits, by omega, rfl, stands⟩

@[simp] theorem length_writeOffsets (place : Nat) :
    (writeOffsets place elements).length = 32 * elements.length := by
  induction elements generalizing place with
  | nil => rfl
  | cons element others ih =>
      rw [writeOffsets, List.length_append, length_lengthWord, ih, List.length_cons]
      omega

theorem length_writeBytes (data : Bytes) :
    (writeBytes data).length = 32 + data.length + (padding data.length).length := by
  simp only [writeBytes, List.length_append, length_lengthWord]

theorem length_writeBytesList (elements : List Bytes) :
    (writeBytesList elements).length =
      32 + 32 * elements.length + (elements.flatMap writeBytes).length := by
  simp only [writeBytesList, List.length_append, length_lengthWord, length_writeOffsets]

theorem readElement_of_stands {index place : Nat}
    (slot : lengthWord place <+: data.drop (head.toNat + 32 * index))
    (stands : writeBytes piece <+: data.drop (head.toNat + place))
    (slotFits : head.toNat + 32 * (index + 1) < UInt64.size)
    (fits : head.toNat + place + (writeBytes piece).length < UInt64.size) :
    readElement data head index = some piece := by
  rw [length_writeBytes] at fits
  have slotAt := toNat_ofNat_of_fits (show head.toNat + 32 * index < UInt64.size by omega)
  have placeAt := toNat_ofNat_of_fits (show place < UInt64.size by omega)
  have readSlot : readLength data (.ofNat (head.toNat + 32 * index)) = some (.ofNat place) := by
    rw [readLength_eq_some_iff, slotAt, placeAt]
    exact ⟨by omega, slot⟩
  have readPiece : readBytes data head (.ofNat place) = some piece := by
    rw [readBytes_eq_some_iff, placeAt]
    exact ⟨by omega, (List.prefix_append _ _).trans stands⟩
  rw [readElement, slotOffset?, if_pos (by omega)]
  simp only [Option.bind_eq_bind, Option.bind_some, readSlot, readPiece]

theorem readElements_of_stands (index place : Nat)
    (slots : writeOffsets place elements <+: data.drop (head.toNat + 32 * index))
    (stands : elements.flatMap writeBytes <+: data.drop (head.toNat + place))
    (slotsFit : head.toNat + 32 * (index + elements.length) < UInt64.size)
    (fits : head.toNat + place + (elements.flatMap writeBytes).length < UInt64.size) :
    readElements data head index elements.length = some elements := by
  induction elements generalizing index place with
  | nil => rfl
  | cons element others ih =>
      rw [writeOffsets, Bytes.append_isPrefix_drop_iff, length_lengthWord] at slots
      rw [List.flatMap_cons, Bytes.append_isPrefix_drop_iff] at stands
      rw [List.flatMap_cons, List.length_append] at fits
      rw [List.length_cons] at slotsFit ⊢
      have first := readElement_of_stands slots.1 stands.1 (by omega) (by omega)
      have rest := ih (index + 1) _ (by rw [Nat.mul_add, ← Nat.add_assoc]; exact slots.2)
        (by rw [← Nat.add_assoc]; exact stands.2) (by omega) (by omega)
      simp [readElements, first, rest]

theorem readBytesList_of_stands (stands : writeBytesList elements <+: data.drop offset.toNat)
    (fits : offset.toNat + (writeBytesList elements).length < UInt64.size) :
    readBytesList data offset = some elements := by
  rw [length_writeBytesList] at fits
  rw [writeBytesList, List.append_assoc, Bytes.append_isPrefix_drop_iff,
    Bytes.append_isPrefix_drop_iff, length_lengthWord, length_writeOffsets] at stands
  obtain ⟨countStands, slots, pieces⟩ := stands
  have countAt := toNat_ofNat_of_fits (show elements.length < UInt64.size by omega)
  have headAt := toNat_ofNat_of_fits (show offset.toNat + 32 < UInt64.size by omega)
  have readCount : readLength data offset = some (.ofNat elements.length) := by
    rw [readLength_eq_some_iff, countAt]
    exact ⟨by omega, countStands⟩
  have headFits : addOffset? offset 32 = some (.ofNat (offset.toNat + 32)) :=
    addOffset?_eq_some_iff.2 headAt
  rw [readBytesList]
  simp only [Option.bind_eq_bind, Option.bind_some, readCount, headFits, countAt]
  refine readElements_of_stands 0 (32 * elements.length) ?_ ?_ ?_ ?_
  all_goals rw [headAt]
  · exact slots
  · exact pieces
  · omega
  · omega

end WalletPolicy.Abi

import WalletPolicy.Proofs.Abi.Layout

/-!
# Lists are bounded by their data

The count of a list, its offsets and its lengths are whatever the data says. But every element needs
an offset word of its own inside the data, so a count that promises more is refused once the words
of the data are used up (`Abi.readBytesList_bounded`).
-/

namespace WalletPolicy.Abi

variable {data element : Bytes} {offset head : UInt64} {index count : Nat}

/-! ## One element -/

/-- An element whose offset word says `place`: the word has its place in the row behind `head`, and
`place` bytes behind `head` there is the length of the element and then the element itself. -/
structure ElementAt (data : Bytes) (head index : Nat) (place : UInt64) (element : Bytes) : Prop where
  slotFits : head + 32 * index + 32 < UInt64.size
  slot : lengthWord place.toNat <+: data.drop (head + 32 * index)
  fits : head + place.toNat + 32 + element.length < UInt64.size
  length : lengthWord element.length <+: data.drop (head + place.toNat)
  inside : head + place.toNat + 32 + element.length ≤ data.length
  slice : (data.drop (head + place.toNat + 32)).take element.length = element

theorem ElementAt.slot_inside {head : Nat} {place : UInt64}
    (stands : ElementAt data head index place element) : head + 32 * (index + 1) ≤ data.length := by
  have room := Bytes.length_le_of_isPrefix_drop stands.slot
  rw [length_lengthWord] at room
  omega

theorem slotOffset?_eq_some_iff {slot : UInt64} :
    slotOffset? head index = some slot ↔ slot.toNat = head.toNat + 32 * index := by
  have bound := slot.toNat_lt_size
  unfold slotOffset?
  split
  · rename_i fits
    rw [Option.some_inj, ← UInt64.toNat_inj, toNat_ofNat_of_fits fits, eq_comm]
  · rename_i overflow
    simp only [reduceCtorEq, false_iff]
    omega

theorem readElement_eq_some_iff :
    readElement data head index = some element ↔
      ∃ place, ElementAt data head.toNat index place element := by
  simp only [readElement, Option.bind_eq_bind, Option.bind_eq_some_iff, slotOffset?_eq_some_iff,
    readLength_eq_some_iff, readBytes_eq_some_iff, Bytes.append_isPrefix_drop_iff, length_lengthWord]
  constructor
  · rintro ⟨slot, slotAt, place, ⟨slotFits, slotStands⟩, fits, length, stands⟩
    rw [slotAt] at slotFits slotStands
    have lengthRoom := Bytes.length_le_of_isPrefix_drop length
    have room := Bytes.length_le_of_isPrefix_drop stands
    rw [length_lengthWord] at lengthRoom
    exact ⟨place, slotFits, slotStands, fits, length, by omega, (List.prefix_iff_eq_take.1 stands).symm⟩
  · rintro ⟨place, slotFits, slot, fits, length, -, slice⟩
    have slotAt : (UInt64.ofNat (head.toNat + 32 * index)).toNat = head.toNat + 32 * index :=
      toNat_ofNat_of_fits (by omega)
    refine ⟨_, slotAt, place, ?_, fits, length, List.prefix_iff_eq_take.2 slice.symm⟩
    rw [slotAt]
    exact ⟨slotFits, slot⟩

/-! ## The elements in a row -/

/-- The elements from `index` on that are read before the reader is done or stops at one that is not
there. -/
def elementsRead (data : Bytes) (head : UInt64) (index : Nat) : Nat → List Bytes
  | 0 => []
  | count + 1 =>
    match readElement data head index with
    | some element => element :: elementsRead data head (index + 1) count
    | none => []

theorem readElements_eq (data : Bytes) (head : UInt64) (index count : Nat) :
    readElements data head index count =
      if (elementsRead data head index count).length = count then
        some (elementsRead data head index count)
      else none := by
  induction count generalizing index with
  | zero => rfl
  | succ count ih =>
      rw [readElements, elementsRead]
      cases readElement data head index with
      | none => rfl
      | some element =>
          simp only [Option.bind_eq_bind, Option.bind_some, ih, List.length_cons, Nat.succ_inj]
          split <;> rfl

theorem length_elementsRead_le (data : Bytes) (head : UInt64) (index count : Nat) :
    (elementsRead data head index count).length ≤ count := by
  induction count generalizing index with
  | zero => exact Nat.le_refl 0
  | succ count ih =>
      rw [elementsRead]
      split
      · exact Nat.succ_le_succ (ih (index + 1))
      · exact Nat.zero_le _

theorem readElement_of_stopped (stopped : (elementsRead data head index count).length < count) :
    readElement data head (index + (elementsRead data head index count).length) = none := by
  induction count generalizing index with
  | zero => exact absurd stopped (Nat.not_lt_zero _)
  | succ count ih =>
      rw [elementsRead] at stopped ⊢
      cases missing : readElement data head index with
      | none => exact missing
      | some element =>
          rw [missing] at stopped
          rw [List.length_cons, Nat.add_comm _ 1, ← Nat.add_assoc]
          exact ih (Nat.lt_of_succ_lt_succ stopped)

theorem elementAt_of_elementsRead {place : Nat}
    (found : (elementsRead data head index count)[place]? = some element) :
    ∃ offset, ElementAt data head.toNat (index + place) offset element := by
  induction count generalizing index place with
  | zero => cases found
  | succ count ih =>
      rw [elementsRead] at found
      cases first : readElement data head index with
      | none => rw [first] at found; cases found
      | some other =>
          rw [first] at found
          cases place with
          | zero =>
              obtain rfl : other = element := Option.some.inj found
              exact readElement_eq_some_iff.1 first
          | succ place =>
              rw [Nat.add_comm place 1, ← Nat.add_assoc]
              exact ih found

theorem elementsRead_inside (inside : head.toNat ≤ data.length) (count : Nat) :
    head.toNat + 32 * (elementsRead data head 0 count).length ≤ data.length := by
  cases used : (elementsRead data head 0 count).length with
  | zero => exact inside
  | succ last =>
      have isLast : last < (elementsRead data head 0 count).length := by omega
      obtain ⟨offset, stands⟩ := elementAt_of_elementsRead (List.getElem?_eq_getElem isLast)
      rw [Nat.zero_add] at stands
      exact stands.slot_inside

/-! ## Lists -/

theorem head_of_readLength {length : UInt64} (read : readLength data offset = some length) :
    ∃ head, addOffset? offset 32 = some head ∧ head.toNat = offset.toNat + 32 ∧
      head.toNat ≤ data.length := by
  obtain ⟨fits, stands⟩ := readLength_eq_some_iff.1 read
  have room := Bytes.length_le_of_isPrefix_drop stands
  rw [length_lengthWord] at room
  have headAt : (UInt64.ofNat (offset.toNat + 32)).toNat = offset.toNat + 32 :=
    toNat_ofNat_of_fits (by omega)
  exact ⟨_, addOffset?_eq_some_iff.2 headAt, headAt, by omega⟩

theorem readBytesList_eq {length : UInt64} (counted : readLength data offset = some length)
    (headAt : addOffset? offset 32 = some head) :
    readBytesList data offset =
      if (elementsRead data head 0 length.toNat).length = length.toNat then
        some (elementsRead data head 0 length.toNat)
      else none := by
  rw [readBytesList, counted, ← readElements_eq]
  simp only [Option.bind_eq_bind, Option.bind_some, headAt]

/-- A list that is read has the declared number of elements, for each of which there is an offset word
inside the data, and each is the slice of the data that its offset and its length word tell. A count
that there is no room for is refused, after no more elements than there are words in the data. Places
are computed as sums of natural numbers or not at all. -/
theorem readBytesList_bounded (data : Bytes) (offset : UInt64) :
    (∀ elements, readBytesList data offset = some elements →
      ∃ count, readLength data offset = some count ∧ elements.length = count.toNat ∧
        offset.toNat + 32 + 32 * count.toNat ≤ data.length ∧
        ∀ (index : Nat) (element : Bytes), elements[index]? = some element →
          ∃ place, ElementAt data (offset.toNat + 32) index place element) ∧
    (∀ count, readLength data offset = some count →
      data.length < offset.toNat + 32 + 32 * count.toNat →
      readBytesList data offset = none ∧
        ∃ head, addOffset? offset 32 = some head ∧ head.toNat = offset.toNat + 32 ∧
          (elementsRead data head 0 count.toNat).length ≤ data.length / 32 ∧
          readElement data head (elementsRead data head 0 count.toNat).length = none ∧
          ∀ (index : Nat) (element : Bytes),
            (elementsRead data head 0 count.toNat)[index]? = some element →
            ∃ place, ElementAt data (offset.toNat + 32) index place element) ∧
    (∀ base offset sum, addOffset? base offset = some sum ↔
      sum.toNat = base.toNat + offset.toNat) ∧
    ∀ head index slot, slotOffset? head index = some slot ↔
      slot.toNat = head.toNat + 32 * index := by
  refine ⟨?success, ?failure, fun _ _ _ => addOffset?_eq_some_iff,
    fun _ _ _ => slotOffset?_eq_some_iff⟩
  case success =>
    intro elements read
    obtain ⟨count, counted, -⟩ := Option.bind_eq_some_iff.1 read
    obtain ⟨head, headAt, headIs, headInside⟩ := head_of_readLength counted
    have inside := elementsRead_inside headInside count.toNat
    rw [readBytesList_eq counted headAt] at read
    split at read
    · rename_i complete
      obtain rfl := Option.some.inj read
      rw [complete, headIs] at inside
      refine ⟨count, counted, complete, inside, fun index element found => ?_⟩
      rw [← headIs, ← Nat.zero_add index]
      exact elementAt_of_elementsRead found
    · cases read
  case failure =>
    intro count counted tooMany
    obtain ⟨head, headAt, headIs, headInside⟩ := head_of_readLength counted
    have inside := elementsRead_inside headInside count.toNat
    have atMost := length_elementsRead_le data head 0 count.toNat
    have stopped : (elementsRead data head 0 count.toNat).length < count.toNat := by omega
    refine ⟨?_, head, headAt, headIs, by omega, ?_, fun index element found => ?_⟩
    · rw [readBytesList_eq counted headAt, if_neg (Nat.ne_of_lt stopped)]
    · rw [← Nat.zero_add (List.length _)]
      exact readElement_of_stopped stopped
    · rw [← headIs, ← Nat.zero_add index]
      exact elementAt_of_elementsRead found

/-- A list that declares as many elements as a count can say, in three words. Its first element is
empty, and its second one overlaps the offset words. -/
def boundlessList : Bytes :=
  (Word.ofUInt64 0xFFFFFFFFFFFFFFFF).toBytes ++ lengthWord 32 ++ lengthWord 0

theorem readBytesList_bounded_boundlessList :
    (readLength boundlessList 0 = some 0xFFFFFFFFFFFFFFFF ∧
      readBytesList boundlessList 0 = none ∧
      (elementsRead boundlessList 32 0 0xFFFFFFFFFFFFFFFF).length ≤ 3 ∧
      readElement boundlessList 32 0 = some [] ∧
      readElement boundlessList 32 1 = some (List.replicate 32 0)) ∧
    readBytesList (writeBytesList [[1, 2, 3], [4]]) 0 = some [[1, 2, 3], [4]] ∧
      ∃ place, ElementAt (writeBytesList [[1, 2, 3], [4]]) 32 1 place [4] := by
  have counted : readLength boundlessList 0 = some 0xFFFFFFFFFFFFFFFF := by decide +kernel
  obtain ⟨refused, head, headAt, -, few, -⟩ :=
    (readBytesList_bounded boundlessList 0).2.1 _ counted (by decide +kernel)
  obtain rfl : head = 32 := Option.some.inj (headAt.symm.trans (by decide))
  have read : readBytesList (writeBytesList [[1, 2, 3], [4]]) 0 = some [[1, 2, 3], [4]] := by
    decide +kernel
  obtain ⟨count, -, -, -, slices⟩ := (readBytesList_bounded _ 0).1 _ read
  exact ⟨⟨counted, refused, few, by decide +kernel, by decide +kernel⟩, read, slices 1 _ rfl⟩

end WalletPolicy.Abi

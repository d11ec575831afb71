import WalletPolicy.Proofs.Text.Addresses

/-!
# Spellings of addresses and digests

Byte strings of a fixed length are spelled by hexadecimal digits, in either case, behind at most one
marker. An address may stand between blanks and a digest may not.
-/

namespace WalletPolicy

namespace Hex

variable {size : Nat} {text code : List Char} {data : Bytes} {c : Char}

def digits : List Char := "0123456789abcdefABCDEF".toList

def markers : List (List Char) := [[], ['0', 'x'], ['0', 'X']]

/-- A text spells a byte string of a size by its code: the code has two digits for each byte, and at
most a marker stands in front of it. -/
structure Spells (size : Nat) (text code : List Char) : Prop where
  marked : ∃ marker ∈ markers, text = marker ++ code
  length : code.length = 2 * size
  digits : ∀ c ∈ code, c ∈ Hex.digits

/-! ## Digits -/

theorem mem_digits_ascii : ∀ code : Fin 128, ∀ value : Fin 16,
    (Char.ofNat code).toLower = digit value → Char.ofNat code ∈ digits := by
  decide +kernel

theorem mem_digits_of_toLower {value : Nat} (small : value < 16)
    (same : c.toLower = digit value) : c ∈ digits := by
  by_cases large : 127 < c.val.toNat
  · exact absurd same (toLower_ne_digit large small)
  · have ascii := mem_digits_ascii ⟨c.val.toNat, by omega⟩ ⟨value, small⟩
    rw [ofNat_val_toNat] at ascii
    exact ascii same

theorem exists_value_of_mem_digits (isDigit : c ∈ digits) :
    ∃ value : Fin 16, c.toLower = digit value := by
  -- A test of the list, as there are too many characters to try them all.
  have all : digits.all (fun c => decide (∃ value : Fin 16, c.toLower = digit value)) = true := by
    decide +kernel
  exact of_decide_eq_true (List.all_eq_true.1 all c isDigit)

theorem isBlank_of_mem_digits (isDigit : c ∈ digits) : Text.isBlank c = false := by
  have all : digits.all (fun c => !Text.isBlank c) = true := by decide +kernel
  simpa using List.all_eq_true.1 all c isDigit

theorem toLower_digit : ∀ value : Fin 16, (digit value).toLower = digit value := by decide +kernel

theorem map_toLower_encodeChars (data : Bytes) :
    (encodeChars data).map Char.toLower = encodeChars data := by
  rw [encodeChars_eq, List.map_map]
  refine List.map_congr_left fun value member => ?_
  exact toLower_digit ⟨value, lt_of_mem_halves member⟩

theorem mem_digits_of_map_toLower (same : code.map Char.toLower = encodeChars data) :
    ∀ c ∈ code, c ∈ digits := by
  intro c member
  have isDigit : c.toLower ∈ encodeChars data := same ▸ List.mem_map_of_mem member
  rw [encodeChars_eq] at isDigit
  obtain ⟨value, isHalf, isDigit⟩ := List.mem_map.1 isDigit
  exact mem_digits_of_toLower (lt_of_mem_halves isHalf) isDigit.symm

theorem mem_digits_encodeChars : ∀ c ∈ encodeChars data, c ∈ digits :=
  mem_digits_of_map_toLower (map_toLower_encodeChars data)

theorem length_of_map_toLower (same : code.map Char.toLower = encodeChars data) :
    code.length = 2 * data.length := by
  have lengths := congrArg List.length same
  rwa [List.length_map, encodeChars_eq, List.length_map, length_halves] at lengths

theorem exists_encodeChars (length : code.length = 2 * size) (isCode : ∀ c ∈ code, c ∈ digits) :
    ∃ data : Bytes, data.length = size ∧ code.map Char.toLower = encodeChars data := by
  induction size generalizing code with
  | zero => exact ⟨[], rfl, by rw [List.eq_nil_of_length_eq_zero length]; rfl⟩
  | succ size ih =>
      match code, length, isCode with
      | first :: second :: rest, length, isCode =>
          obtain ⟨isFirst, isCode⟩ := List.forall_mem_cons.1 isCode
          obtain ⟨isSecond, isCode⟩ := List.forall_mem_cons.1 isCode
          obtain ⟨high, isHigh⟩ := exists_value_of_mem_digits isFirst
          obtain ⟨low, isLow⟩ := exists_value_of_mem_digits isSecond
          obtain ⟨data, isData, same⟩ := ih (by simpa [Nat.mul_add] using length) isCode
          obtain ⟨highHalf, lowHalf⟩ :=
            (byte_of_halves high.isLt low.isLt (UInt8.ofNat (high * 16 + low))).1 rfl
          refine ⟨UInt8.ofNat (high * 16 + low) :: data, congrArg Nat.succ isData, ?_⟩
          rw [List.map_cons, List.map_cons, isHigh, isLow, same, encodeChars_eq, encodeChars_eq,
            halves_cons, List.map_cons, List.map_cons, ← highHalf, ← lowHalf]

/-! ## Markers -/

theorem exists_marker (text : List Char) :
    ∃ marker ∈ markers, text = marker ++ dropMarker text := by
  unfold dropMarker
  split
  · exact ⟨['0', 'x'], by simp [markers], rfl⟩
  · exact ⟨['0', 'X'], by simp [markers], rfl⟩
  · exact ⟨[], by simp [markers], rfl⟩

theorem dropMarker_code (isCode : ∀ c ∈ code, c ∈ digits) : dropMarker code = code := by
  unfold dropMarker
  split
  · exact absurd (isCode 'x' (by simp)) (by decide)
  · exact absurd (isCode 'X' (by simp)) (by decide)
  · rfl

theorem Spells.dropMarker_eq (spells : Spells size text code) : dropMarker text = code := by
  obtain ⟨marker, isMarker, rfl⟩ := spells.marked
  simp only [markers, List.mem_cons, List.not_mem_nil, or_false] at isMarker
  rcases isMarker with rfl | rfl | rfl
  · exact dropMarker_code spells.digits
  · rfl
  · rfl

theorem exists_bytes_iff :
    (∃ bytes : FixedBytes size, (dropMarker text).map Char.toLower = encodeChars bytes.toBytes) ↔
      ∃ code, Spells size text code := by
  constructor
  · rintro ⟨bytes, same⟩
    exact ⟨dropMarker text, exists_marker text, bytes.length_eq ▸ length_of_map_toLower same,
      mem_digits_of_map_toLower same⟩
  · rintro ⟨code, spells⟩
    obtain ⟨data, length, same⟩ := exists_encodeChars spells.length spells.digits
    exact ⟨⟨data, length⟩, by rwa [spells.dropMarker_eq]⟩

theorem toList_encodePrefixed (data : Bytes) :
    (encodePrefixed data).toList = '0' :: 'x' :: encodeChars data := by
  have digits : (encode data).toList = encodeChars data := String.toList_ofList
  rw [encodePrefixed, String.toList_append, digits]
  rfl

theorem decode_utf8_eq_ok_iff :
    decode (utf8 text) = .ok data ↔ text.map Char.toLower = encodeChars data := by
  rw [← decodeFrom_utf8_eq_ok_iff, decode]
  split
  · rename_i odd
    constructor
    · intro same
      cases same
    · intro decoded
      have length := length_of_decodeFrom decoded
      omega
  · exact Iff.rfl

end Hex

open Hex

/-! ## Digests -/

namespace Digest

variable {text : String} {digest : Digest}

theorem parse_eq_ok_iff :
    parse text = .ok digest ↔
      (dropMarker text.toList).map Char.toLower = encodeChars digest.toBytes := by
  rw [← decode_utf8_eq_ok_iff, parse]
  cases decode (utf8 (dropMarker text.toList)) with
  | error cause => simp
  | ok data =>
      rw [Except.ok.injEq, ← ofBytes?_eq_some_iff]
      cases found : ofBytes? data <;> simp [found]

theorem exists_parse_iff :
    (∃ digest, parse text = .ok digest) ↔ ∃ code, Spells 32 text.toList code := by
  rw [← exists_bytes_iff]
  constructor
  · rintro ⟨digest, parsed⟩
    exact ⟨digest.bytes, parse_eq_ok_iff.1 parsed⟩
  · rintro ⟨bytes, same⟩
    exact ⟨⟨bytes⟩, parse_eq_ok_iff.2 same⟩

theorem parse_toDigits (digest : Digest) : parse digest.toDigits = .ok digest := by
  rw [parse_eq_ok_iff, toDigits, encode, String.toList_ofList,
    dropMarker_code mem_digits_encodeChars, map_toLower_encodeChars]

theorem parse_toHex (digest : Digest) : parse digest.toHex = .ok digest := by
  rw [parse_eq_ok_iff, toHex, toList_encodePrefixed]
  exact map_toLower_encodeChars _

end Digest

/-! ## Addresses -/

theorem Text.trim_of_not_isBlank {text : List Char} (clear : ∀ c ∈ text, isBlank c = false) :
    trim text = text := by
  have keeps (kept : List Char) (clear : ∀ c ∈ kept, isBlank c = false) :
      kept.dropWhile isBlank = kept := by
    cases kept with
    | nil => rfl
    | cons c rest => exact List.dropWhile_cons_of_neg (by simp [clear c])
  rw [trim, keeps text clear, keeps _ fun c member => clear c (List.mem_reverse.1 member),
    List.reverse_reverse]

namespace Address

variable {text other : String} {address : Address} {code otherCode : List Char}

theorem exists_parse_iff :
    (∃ address, parse text = .ok address) ↔
      ∃ code, Spells 20 (Text.trim text.toList) code := by
  rw [← exists_bytes_iff]
  constructor
  · rintro ⟨address, parsed⟩
    exact ⟨address.bytes, parse_eq_ok_iff.1 parsed⟩
  · rintro ⟨bytes, same⟩
    exact ⟨⟨bytes⟩, parse_eq_ok_iff.2 same⟩

theorem parse_eq_parse_iff (spells : Spells 20 (Text.trim text.toList) code)
    (otherSpells : Spells 20 (Text.trim other.toList) otherCode) :
    parse text = parse other ↔ code.map Char.toLower = otherCode.map Char.toLower := by
  obtain ⟨address, parsed⟩ := exists_parse_iff.2 ⟨code, spells⟩
  have same := parse_eq_ok_iff.1 parsed
  rw [digits, spells.dropMarker_eq] at same
  rw [parsed, same, eq_comm, parse_eq_ok_iff, digits, otherSpells.dropMarker_eq, eq_comm]

theorem parse_toHex (address : Address) : parse address.toHex = .ok address := by
  have trimmed : Text.trim address.toHex.toList = address.toHex.toList := by
    refine Text.trim_of_not_isBlank fun c member => ?_
    rw [toHex, toList_encodePrefixed, List.mem_cons, List.mem_cons] at member
    rcases member with rfl | rfl | isCode
    · decide
    · decide
    · exact isBlank_of_mem_digits (mem_digits_encodeChars c isCode)
  rw [parse_eq_ok_iff, digits, trimmed, toHex, toList_encodePrefixed]
  exact map_toLower_encodeChars _

end Address

/-- Addresses are read from their spellings between blanks and digests from their spellings alone; the
test for settings agrees with the reader, letter case does not matter and nothing else is left out, and
what is written is read back. -/
theorem Hex.read_iff_spelled :
    (∀ text, Address.looksValid text = true ↔ ∃ address, Address.parse text = .ok address) ∧
    (∀ text, (∃ address, Address.parse text = .ok address) ↔
      ∃ code, Spells 20 (Text.trim text.toList) code) ∧
    (∀ text other code otherCode, Spells 20 (Text.trim text.toList) code →
      Spells 20 (Text.trim other.toList) otherCode →
      (Address.parse text = Address.parse other ↔
        code.map Char.toLower = otherCode.map Char.toLower)) ∧
    (∀ address : Address, Address.parse address.toHex = .ok address) ∧
    (∀ text, (∃ digest, Digest.parse text = .ok digest) ↔ ∃ code, Spells 32 text.toList code) ∧
    ∀ digest : Digest,
      Digest.parse digest.toDigits = .ok digest ∧ Digest.parse digest.toHex = .ok digest :=
  ⟨fun _ => Address.looksValid_iff, fun _ => Address.exists_parse_iff,
    fun _ _ _ _ => Address.parse_eq_parse_iff, Address.parse_toHex,
    fun _ => Digest.exists_parse_iff,
    fun digest => ⟨Digest.parse_toDigits digest, Digest.parse_toHex digest⟩⟩

end WalletPolicy

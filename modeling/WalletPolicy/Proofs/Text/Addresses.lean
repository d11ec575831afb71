import WalletPolicy.Address

namespace WalletPolicy

namespace Hex

def halves (data : Bytes) : List Nat :=
  data.flatMap fun byte => [byte.toNat / 16, byte.toNat % 16]

theorem halves_cons (byte : UInt8) (data : Bytes) :
    halves (byte :: data) = byte.toNat / 16 :: byte.toNat % 16 :: halves data := rfl

theorem lt_of_mem_halves {data : Bytes} {value : Nat} (member : value ∈ halves data) :
    value < 16 := by
  obtain ⟨byte, -, isHalf⟩ := List.mem_flatMap.1 member
  have small := byte.toNat_lt
  simp only [List.mem_cons, List.not_mem_nil, or_false] at isHalf
  omega

theorem length_halves (data : Bytes) : (halves data).length = 2 * data.length := by
  induction data with
  | nil => rfl
  | cons byte data ih =>
      rw [halves_cons, List.length_cons, List.length_cons, List.length_cons, ih]
      omega

theorem encodeChars_eq (data : Bytes) : encodeChars data = (halves data).map digit := by
  induction data with
  | nil => rfl
  | cons byte data ih =>
      rw [halves_cons, List.map_cons, List.map_cons, ← ih]
      rfl

/-! ## Digits as bytes -/

theorem digitValue?_lt {code : UInt8} {value : Nat} (h : digitValue? code = some value) :
    value < 16 := by
  unfold digitValue? at h
  dsimp only at h
  split at h
  · cases h; omega
  · split at h
    · cases h; omega
    · split at h
      · cases h; omega
      · cases h

theorem digitValue?_of_large {code : UInt8} (large : 128 ≤ code.toNat) :
    digitValue? code = none := by
  unfold digitValue?
  dsimp only
  repeat' rw [if_neg (by omega)]

theorem byte_of_halves {high low : Nat} (smallHigh : high < 16) (smallLow : low < 16)
    (byte : UInt8) :
    UInt8.ofNat (high * 16 + low) = byte ↔ high = byte.toNat / 16 ∧ low = byte.toNat % 16 := by
  have small := byte.toNat_lt
  rw [← UInt8.toNat_inj, UInt8.toNat_ofNat']
  omega

theorem decodeFrom_eq_ok_iff {position : Nat} {code data : Bytes} :
    decodeFrom position code = .ok data ↔ code.map digitValue? = (halves data).map some := by
  induction position, code using decodeFrom.induct generalizing data with
  | case1 => cases data <;> simp [decodeFrom, halves]
  | case2 => cases data <;> simp [decodeFrom, halves]
  | case3 position high low rest bad =>
      cases data <;> simp [decodeFrom, halves, bad]
  | case4 position high low rest value bad good =>
      cases data <;> simp [decodeFrom, halves, good, bad]
  | case5 position high low rest first second isLow isHigh ih =>
      have isByte := byte_of_halves (digitValue?_lt isHigh) (digitValue?_lt isLow)
      simp only [decodeFrom, isHigh, isLow]
      cases data with
      | nil => cases decodeFrom (position + 2) rest <;> simp [Except.map, halves]
      | cons byte data =>
          rw [halves_cons, List.map_cons, List.map_cons, List.map_cons, List.map_cons, isHigh, isLow,
            List.cons.injEq, List.cons.injEq, Option.some_inj, Option.some_inj, ← and_assoc,
            ← isByte byte, ← ih]
          cases decodeFrom (position + 2) rest with
          | error cause => simp [Except.map]
          | ok tail => rw [Except.map, Except.ok.injEq, Except.ok.injEq, List.cons.injEq]

theorem length_of_decodeFrom {position : Nat} {code data : Bytes}
    (decoded : decodeFrom position code = .ok data) : code.length = 2 * data.length := by
  have sameLength := congrArg List.length (decodeFrom_eq_ok_iff.1 decoded)
  rwa [List.length_map, List.length_map, length_halves] at sameLength

theorem exists_decodeFrom_of_isDigit (position : Nat) {code : Bytes} (even : code.length % 2 = 0)
    (digits : code.all isDigit = true) : ∃ data, decodeFrom position code = .ok data := by
  induction position, code using decodeFrom.induct with
  | case1 => exact ⟨[], rfl⟩
  | case2 => simp at even
  | case3 position high low rest bad => simp [isDigit, bad] at digits
  | case4 position high low rest value bad good => simp [isDigit, bad] at digits
  | case5 position high low rest first second isLow isHigh ih =>
      obtain ⟨data, decoded⟩ := ih
        (by simp only [List.length_cons] at even; omega) (by simp_all)
      refine ⟨UInt8.ofNat (first * 16 + second) :: data, ?_⟩
      simp only [decodeFrom, isHigh, isLow, decoded, Except.map]

/-! ## Digits as characters -/

theorem digitValue?_ascii : ∀ code : Fin 128, ∀ value : Fin 16,
    digitValue? (UInt8.ofNat code) = some value.val ↔
      (Char.ofNat code).toLower = digit value := by
  decide +kernel

theorem toNat_digit_lt : ∀ value : Fin 16, (digit value).toNat < 128 := by decide

theorem ofNat_val_toNat (c : Char) : Char.ofNat c.val.toNat = c := Char.ofNat_toNat c

theorem toLower_ne_digit {c : Char} {value : Nat} (large : 127 < c.val.toNat)
    (small : value < 16) : c.toLower ≠ digit value := by
  have unchanged : c.toLower = c := by
    unfold Char.toLower
    rw [dif_neg]
    rintro ⟨-, upTo⟩
    have bound : c.val.toNat ≤ 90 := UInt32.le_iff_toNat_le.1 upTo
    omega
  intro same
  have bound := toNat_digit_lt ⟨value, small⟩
  rw [← same, unchanged] at bound
  have : c.toNat = c.val.toNat := rfl
  omega

theorem map_utf8EncodeChar_append_iff {c : Char} {value : Nat} (small : value < 16)
    (rest : Bytes) (values : List Nat) :
    (String.utf8EncodeChar c ++ rest).map digitValue? = some value :: values.map some ↔
      c.toLower = digit value ∧ rest.map digitValue? = values.map some := by
  by_cases ascii : c.val.toNat ≤ 127
  · have single : String.utf8EncodeChar c = [UInt8.ofNat c.val.toNat] := if_pos ascii
    have sameDigit := digitValue?_ascii ⟨c.val.toNat, by omega⟩ ⟨value, small⟩
    rw [ofNat_val_toNat] at sameDigit
    rw [single, List.cons_append, List.nil_append, List.map_cons, List.cons.injEq, sameDigit]
  · have notDigit : c.toLower ≠ digit value := toLower_ne_digit (by omega) small
    have high : ∃ first tail, String.utf8EncodeChar c = first :: tail ∧
        digitValue? first = none := by
      unfold String.utf8EncodeChar
      dsimp only
      rw [if_neg ascii]
      repeat' split
      all_goals
        refine ⟨_, _, rfl, digitValue?_of_large ?_⟩
        rw [UInt8.toNat_ofNat']
        omega
    obtain ⟨first, tail, encoded, noDigit⟩ := high
    simp [encoded, noDigit, notDigit]

theorem map_utf8_eq_iff {text : List Char} {values : List Nat}
    (small : ∀ value ∈ values, value < 16) :
    (utf8 text).map digitValue? = values.map some ↔
      text.map Char.toLower = values.map digit := by
  induction text generalizing values with
  | nil => cases values <;> simp [utf8]
  | cons c text ih =>
      have split : utf8 (c :: text) = String.utf8EncodeChar c ++ utf8 text := rfl
      cases values with
      | nil =>
          have nonempty : String.utf8EncodeChar c ≠ [] := by
            rw [← List.length_pos_iff, String.length_utf8EncodeChar]
            exact Char.utf8Size_pos c
          simp [split, nonempty]
      | cons value values =>
          obtain ⟨smallFirst, smallRest⟩ := List.forall_mem_cons.1 small
          rw [split, List.map_cons, map_utf8EncodeChar_append_iff smallFirst, ih smallRest,
            List.map_cons, List.map_cons, List.cons.injEq]

theorem decodeFrom_utf8_eq_ok_iff {position : Nat} {text : List Char} {data : Bytes} :
    decodeFrom position (utf8 text) = .ok data ↔ text.map Char.toLower = encodeChars data := by
  rw [decodeFrom_eq_ok_iff, map_utf8_eq_iff (fun _ => lt_of_mem_halves), encodeChars_eq]

end Hex

namespace Address

variable {text : String} {address : Address}

theorem parse_eq_ok_iff_decodeFrom :
    parse text = .ok address ↔
      Hex.decodeFrom 0 (utf8 (digits text)) = .ok address.toBytes := by
  unfold parse
  dsimp only
  split
  · rename_i wrongLength
    constructor
    · intro h
      cases h
    · intro decoded
      have sameLength := Hex.length_of_decodeFrom decoded
      rw [toBytes, FixedBytes.length_toBytes] at sameLength
      exact absurd sameLength wrongLength
  · rename_i rightLength
    rw [Hex.decode, if_neg (by omega)]
    cases Hex.decodeFrom 0 (utf8 (digits text)) with
    | error cause => simp
    | ok data =>
        cases found : ofBytes? data with
        | none =>
            have other : data ≠ address.toBytes := by
              intro same
              rw [ofBytes?_eq_some_iff.2 same] at found
              cases found
            simp [found, other]
        | some given =>
            have isGiven := ofBytes?_eq_some_iff.1 found
            subst isGiven
            simp only [found, Except.ok.injEq]
            constructor
            · rintro rfl
              rfl
            · intro same
              exact Address.mk.injEq _ _ ▸ FixedBytes.ext same

theorem parse_eq_ok_iff :
    parse text = .ok address ↔ (digits text).map Char.toLower = Hex.encodeChars address.toBytes := by
  rw [parse_eq_ok_iff_decodeFrom, Hex.decodeFrom_utf8_eq_ok_iff]

theorem looksValid_iff : looksValid text = true ↔ ∃ address, parse text = .ok address := by
  unfold looksValid
  dsimp only
  rw [Bool.and_eq_true, beq_iff_eq]
  constructor
  · rintro ⟨length, isDigits⟩
    obtain ⟨data, decoded⟩ := Hex.exists_decodeFrom_of_isDigit 0 (by omega) isDigits
    have sameLength := Hex.length_of_decodeFrom decoded
    have twenty : data.length = 20 := by omega
    exact ⟨⟨⟨data, twenty⟩⟩, parse_eq_ok_iff_decodeFrom.2 decoded⟩
  · rintro ⟨address, parsed⟩
    have decoded := parse_eq_ok_iff_decodeFrom.1 parsed
    have sameLength := Hex.length_of_decodeFrom decoded
    rw [toBytes, FixedBytes.length_toBytes] at sameLength
    refine ⟨sameLength, List.all_eq_true.2 fun code member => ?_⟩
    have isDigit : Hex.digitValue? code ∈ (Hex.halves address.toBytes).map some := by
      rw [← Hex.decodeFrom_eq_ok_iff.1 decoded]
      exact List.mem_map_of_mem member
    obtain ⟨value, -, same⟩ := List.mem_map.1 isDigit
    rw [Hex.isDigit, ← same]
    rfl

end Address

end WalletPolicy

import WalletPolicy.Bytes.Basic

namespace WalletPolicy

inductive HexError where
  | oddLength
  | badDigit (byte : UInt8) (position : Nat)
  deriving DecidableEq

namespace Hex

def digit (value : Nat) : Char :=
  if value < 10 then Char.ofNat (48 + value) else Char.ofNat (87 + value)

def digitValue? (code : UInt8) : Option Nat :=
  let n := code.toNat
  if 48 ≤ n ∧ n ≤ 57 then some (n - 48)
  else if 97 ≤ n ∧ n ≤ 102 then some (n - 87)
  else if 65 ≤ n ∧ n ≤ 70 then some (n - 55)
  else none

def isDigit (code : UInt8) : Bool := (digitValue? code).isSome

def encodeByte (byte : UInt8) : List Char :=
  [digit (byte.toNat / 16), digit (byte.toNat % 16)]

def encodeChars (data : Bytes) : List Char := data.flatMap encodeByte

def encode (data : Bytes) : String := String.ofList (encodeChars data)

def encodePrefixed (data : Bytes) : String := "0x" ++ encode data

/-- Read digits pair by pair; `position` is the place of the first byte. -/
def decodeFrom (position : Nat) : Bytes → Except HexError Bytes
  | [] => .ok []
  | [_] => .error .oddLength
  | high :: low :: rest =>
    match digitValue? high, digitValue? low with
    | none, _ => .error (.badDigit high position)
    | some _, none => .error (.badDigit low (position + 1))
    | some a, some b => (decodeFrom (position + 2) rest).map (UInt8.ofNat (a * 16 + b) :: ·)

/-- Read a byte string from digits; an odd count is reported before any character. -/
def decode (digits : Bytes) : Except HexError Bytes :=
  if digits.length % 2 = 1 then .error .oddLength else decodeFrom 0 digits

end Hex

def Hex.dropMarker : List Char → List Char
  | '0' :: 'x' :: rest => rest
  | '0' :: 'X' :: rest => rest
  | digits => digits

def utf8 (text : List Char) : Bytes := text.flatMap String.utf8EncodeChar

namespace Hex

theorem digitValue?_digit : ∀ value : Fin 16,
    ∃ code, String.utf8EncodeChar (digit value) = [code] ∧ digitValue? code = some value.val := by
  intro value
  have table : ∀ v : Fin 16, String.utf8EncodeChar (digit v) =
      [if v.val < 10 then UInt8.ofNat (48 + v) else UInt8.ofNat (87 + v)] := by decide
  have values : ∀ v : Fin 16,
      digitValue? (if v.val < 10 then UInt8.ofNat (48 + v) else UInt8.ofNat (87 + v)) =
        some v.val := by decide
  exact ⟨_, table value, values value⟩

theorem decodeFrom_encode (position : Nat) (data : Bytes) :
    decodeFrom position (utf8 (encodeChars data)) = .ok data := by
  induction data generalizing position with
  | nil => rfl
  | cons byte rest ih =>
    have small := byte.toNat_lt
    obtain ⟨high, highCode, highValue⟩ := digitValue?_digit ⟨byte.toNat / 16, by omega⟩
    obtain ⟨low, lowCode, lowValue⟩ := digitValue?_digit ⟨byte.toNat % 16, by omega⟩
    have split : utf8 (encodeChars (byte :: rest)) = high :: low :: utf8 (encodeChars rest) := by
      simp only [utf8, encodeChars, encodeByte, List.flatMap_cons, List.flatMap_append,
        List.flatMap_nil, List.append_nil]
      simp_all
    have whole : UInt8.ofNat (byte.toNat / 16 * 16 + byte.toNat % 16) = byte := by
      rw [Nat.div_add_mod' byte.toNat 16]
      simp
    rw [split, decodeFrom, highValue, lowValue]
    simp only [ih (position + 2), whole, Except.map]

theorem length_utf8_encodeChars (data : Bytes) :
    (utf8 (encodeChars data)).length = 2 * data.length := by
  induction data with
  | nil => rfl
  | cons byte rest ih =>
    have small := byte.toNat_lt
    obtain ⟨high, highCode, -⟩ := digitValue?_digit ⟨byte.toNat / 16, by omega⟩
    obtain ⟨low, lowCode, -⟩ := digitValue?_digit ⟨byte.toNat % 16, by omega⟩
    simp only [utf8, encodeChars, encodeByte, List.flatMap_cons, List.flatMap_append,
      List.flatMap_nil, List.append_nil, List.length_append] at ih ⊢
    simp_all
    omega

theorem decode_encode (data : Bytes) : decode (utf8 (encodeChars data)) = .ok data := by
  rw [decode, length_utf8_encodeChars, if_neg (by omega), decodeFrom_encode]

end Hex

end WalletPolicy

import WalletPolicy.Bytes.Hex
import WalletPolicy.Text.Quoted
import WalletPolicy.Keccak

namespace WalletPolicy

/-- What is said of a text that is no hexadecimal byte string. The offending byte is shown as the
character of its code. -/
def HexError.message : HexError → String
  | .oddLength => "invalid hex encoding: Odd number of digits"
  | .badDigit byte position =>
    let shown := Text.quotedChar (Char.ofNat byte.toNat)
    s!"invalid hex encoding: Invalid character {shown} at position {position}"

structure Digest where
  bytes : FixedBytes 32
  deriving DecidableEq, Inhabited

inductive DigestError where
  | notHex (cause : HexError)
  | wrongLength (actual : Nat)
  deriving DecidableEq

def DigestError.message : DigestError → String
  | .notHex cause => cause.message
  | .wrongLength actual => s!"invalid hash length: expected 32 bytes, got {actual}"

namespace Digest

def of (data : Bytes) : Digest := ⟨Keccak.hash data⟩

def zero : Digest := ⟨.zero⟩

def isZero (digest : Digest) : Bool := digest == zero

def toBytes (digest : Digest) : Bytes := digest.bytes.toBytes

def ofBytes? (data : Bytes) : Option Digest := (FixedBytes.ofBytes? data).map Digest.mk

theorem ofBytes?_eq_some_iff {data : Bytes} {digest : Digest} :
    ofBytes? data = some digest ↔ data = digest.toBytes :=
  FixedBytes.map_ofBytes?_eq_some_iff (fun _ => rfl) fun _ => rfl

def toDigits (digest : Digest) : String := Hex.encode digest.toBytes

def toHex (digest : Digest) : String := Hex.encodePrefixed digest.toBytes

def short (digest : Digest) : String := Hex.encode (digest.toBytes.take 4)

def describe (digest : Digest) : String :=
  let digits := Hex.encode (digest.toBytes.take 8)
  s!"ContentHash({digits})"

def leading (digest : Digest) : FixedBytes 4 :=
  ⟨digest.toBytes.take 4, by simp [toBytes]⟩

/-- Read a digest from its digits, with or without one marker `0x` or `0X`. Blanks are not
dropped. -/
def parse (text : String) : Except DigestError Digest :=
  match Hex.decode (utf8 (Hex.dropMarker text.toList)) with
  | .error cause => .error (.notHex cause)
  | .ok data =>
    match ofBytes? data with
    | some digest => .ok digest
    | none => .error (.wrongLength data.length)

end Digest

end WalletPolicy

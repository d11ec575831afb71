import WalletPolicy.Digest
import WalletPolicy.Text.Blank

namespace WalletPolicy

structure Address where
  bytes : FixedBytes 20
  deriving DecidableEq, Inhabited

inductive AddressError where
  | wrongLength (actual : Nat)
  | notHex (cause : HexError)
  deriving DecidableEq

def AddressError.message : AddressError → String
  | .wrongLength actual => s!"invalid address length: expected 40 hex digits, got {actual}"
  | .notHex cause => cause.message

namespace Address

def ofNat (n : Nat) : Address := ⟨.ofNat n⟩

def toNat (address : Address) : Nat := address.bytes.toNat

def zero : Address := ⟨.zero⟩

def isZero (address : Address) : Bool := address == zero

def toBytes (address : Address) : Bytes := address.bytes.toBytes

def ofBytes? (data : Bytes) : Option Address := (FixedBytes.ofBytes? data).map Address.mk

theorem ofBytes?_eq_some_iff {data : Bytes} {address : Address} :
    ofBytes? data = some address ↔ data = address.toBytes :=
  FixedBytes.map_ofBytes?_eq_some_iff (fun _ => rfl) fun _ => rfl

def toHex (address : Address) : String := Hex.encodePrefixed address.toBytes

def short (address : Address) : String :=
  let head := Hex.encode (address.toBytes.take 2)
  let tail := Hex.encode (address.toBytes.drop 18)
  s!"0x{head}…{tail}"

def describe (address : Address) : String := s!"Address({address.toHex})"

def digits (text : String) : List Char := Hex.dropMarker (Text.trim text.toList)

/-- Read an address. The length is checked before the digits, and counts bytes. -/
def parse (text : String) : Except AddressError Address :=
  let code := utf8 (digits text)
  if code.length ≠ 40 then .error (.wrongLength code.length)
  else
    match Hex.decode code with
    | .error cause => .error (.notHex cause)
    | .ok data =>
      match ofBytes? data with
      | some address => .ok address
      | none => .error (.wrongLength (2 * data.length))

def looksValid (text : String) : Bool :=
  let code := utf8 (digits text)
  code.length == 40 && code.all Hex.isDigit

def sortUnique (addresses : List Address) : List Address :=
  (addresses.mergeSort fun a b => a.toNat ≤ b.toNat).eraseDups

end Address

end WalletPolicy

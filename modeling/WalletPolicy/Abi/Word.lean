import WalletPolicy.Address

/-!
Words of 32 bytes, padded with zeros on the left. A word with other padding, or with a value that is
too wide, is not read, nor is one whose end does not fit in 64 bits.
-/
namespace WalletPolicy.Abi

abbrev Word := FixedBytes 32

abbrev UInt128 := BitVec 128

namespace Word

def ofUInt64 (value : UInt64) : Word :=
  ⟨List.replicate 24 0 ++ Bytes.ofNat 8 value.toNat, by simp⟩

def ofUInt128 (value : UInt128) : Word :=
  ⟨List.replicate 16 0 ++ Bytes.ofNat 16 value.toNat, by simp⟩

def ofHalves (high low : UInt128) : Word :=
  ⟨Bytes.ofNat 16 high.toNat ++ Bytes.ofNat 16 low.toNat, by simp⟩

def ofAddress (address : Address) : Word :=
  ⟨List.replicate 12 0 ++ address.toBytes, by simp [Address.toBytes]⟩

def ofBool (value : Bool) : Word := ofUInt64 (if value then 1 else 0)

def toUInt64? (word : Word) : Option UInt64 :=
  if Bytes.allZero (word.toBytes.take 24) then
    some (UInt64.ofNat (Bytes.toNat (word.toBytes.drop 24)))
  else none

def toAddress? (word : Word) : Option Address :=
  if Bytes.allZero (word.toBytes.take 12) then Address.ofBytes? (word.toBytes.drop 12) else none

def toBool? (word : Word) : Option Bool :=
  match word.toUInt64? with
  | some 0 => some false
  | some 1 => some true
  | _ => none

end Word

def addOffset? (base offset : UInt64) : Option UInt64 :=
  if base.toNat + offset.toNat < UInt64.size then some (base + offset) else none

def sliceAt? (data : Bytes) (offset length : UInt64) : Option Bytes := do
  let _ ← addOffset? offset length
  Bytes.slice? data offset.toNat length.toNat

def readWord (data : Bytes) (offset : UInt64) : Option Word := do
  let block ← sliceAt? data offset 32
  FixedBytes.ofBytes? block

def readUInt64 (data : Bytes) (offset : UInt64) : Option UInt64 := do
  let word ← readWord data offset
  word.toUInt64?

def readLength (data : Bytes) (offset : UInt64) : Option UInt64 := readUInt64 data offset

def readAddress (data : Bytes) (offset : UInt64) : Option Address := do
  let word ← readWord data offset
  word.toAddress?

def readBool (data : Bytes) (offset : UInt64) : Option Bool := do
  let word ← readWord data offset
  word.toBool?

end WalletPolicy.Abi

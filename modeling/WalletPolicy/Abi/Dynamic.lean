import WalletPolicy.Abi.Word

/-!
A byte string is a length word and its bytes; a list is a count, an offset word for each element and
the elements. Offsets count from the first offset word.
-/
namespace WalletPolicy.Abi

/-! ## Reading -/

def readBytes (data : Bytes) (base offset : UInt64) : Option Bytes := do
  let start ← addOffset? base offset
  let length ← readLength data start
  let body ← addOffset? start 32
  sliceAt? data body length

def slotOffset? (head : UInt64) (index : Nat) : Option UInt64 :=
  if head.toNat + 32 * index < UInt64.size then some (UInt64.ofNat (head.toNat + 32 * index)) else none

def readElement (data : Bytes) (head : UInt64) (index : Nat) : Option Bytes := do
  let slot ← slotOffset? head index
  let offset ← readLength data slot
  readBytes data head offset

def readElements (data : Bytes) (head : UInt64) (index : Nat) : Nat → Option (List Bytes)
  | 0 => some []
  | count + 1 => do
    let element ← readElement data head index
    let others ← readElements data head (index + 1) count
    some (element :: others)

def readBytesList (data : Bytes) (offset : UInt64) : Option (List Bytes) := do
  let count ← readLength data offset
  let head ← addOffset? offset 32
  readElements data head 0 count.toNat

/-! ## Writing -/

def padding (length : Nat) : Bytes :=
  if length % 32 = 0 then [] else List.replicate (32 - length % 32) 0

def lengthWord (length : Nat) : Bytes := (Word.ofUInt64 (UInt64.ofNat length)).toBytes

def writeBytes (data : Bytes) : Bytes :=
  lengthWord data.length ++ data ++ padding data.length

def writeOffsets (offset : Nat) : List Bytes → Bytes
  | [] => []
  | element :: others =>
    lengthWord offset ++ writeOffsets (offset + (writeBytes element).length) others

def writeBytesList (elements : List Bytes) : Bytes :=
  lengthWord elements.length ++ writeOffsets (32 * elements.length) elements ++
    elements.flatMap writeBytes

end WalletPolicy.Abi

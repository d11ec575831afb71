import WalletPolicy.Abi.Word

namespace WalletPolicy.Abi

inductive Item where
  | raw (data : Bytes)
  | word (value : Word)
  | address (value : Address)
  | uint64 (value : UInt64)
  | uint128 (value : UInt128)
  | flag (value : Bool)
  | digest (value : Digest)
  | hashed (data : Bytes)
  deriving DecidableEq

def Item.encode : Item → Bytes
  | .raw data => data
  | .word value => value.toBytes
  | .address value => (Word.ofAddress value).toBytes
  | .uint64 value => (Word.ofUInt64 value).toBytes
  | .uint128 value => (Word.ofUInt128 value).toBytes
  | .flag value => (Word.ofBool value).toBytes
  | .digest value => value.toBytes
  | .hashed data => (Digest.of data).toBytes

def pack (items : List Item) : Bytes := items.flatMap Item.encode

def digest (items : List Item) : Digest := Digest.of (pack items)

@[simp] theorem pack_nil : pack [] = [] := rfl

@[simp] theorem pack_cons (item : Item) (items : List Item) :
    pack (item :: items) = item.encode ++ pack items := rfl

end WalletPolicy.Abi

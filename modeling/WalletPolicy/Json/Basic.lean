/-!
JSON values, and how values of other types are written as JSON and read from it. Members that a
record does not have are ignored, and a record may be given as the list of its members in order.
-/
namespace WalletPolicy

/-- A JSON value. A number is an `integer` unless it is written with a fraction or an exponent. -/
inductive Json where
  | null
  | bool (value : Bool)
  | integer (value : Int)
  | decimal (mantissa : Int) (places : Nat)
  | text (value : String)
  | list (items : List Json)
  | object (members : List (String × Json))
  deriving Inhabited

class JsonForm (α : Type) where
  write : α → Json
  read : Json → Option α
  missing : Option α := none

namespace Json

/-! ## Records and variants -/

inductive Members where
  | named (members : List (String × Json))
  | listed (items : List Json)

def members? : Json → Option Members
  | .object members => some (.named members)
  | .list items => some (.listed items)
  | _ => none

namespace Members

def find? (members : Members) (place : Nat) (name : String) : Option Json :=
  match members with
  | .named members => members.lookup name
  | .listed items => items[place]?

/-- Read a member that a record needs. In a list every member has to be there. -/
def get {α : Type} [JsonForm α] (members : Members) (place : Nat) (name : String) : Option α :=
  match members.find? place name, members with
  | some value, _ => JsonForm.read value
  | none, .named _ => JsonForm.missing
  | none, .listed _ => none

def getD {α : Type} [JsonForm α] (members : Members) (place : Nat) (name : String)
    (default : α) : Option α :=
  match members.find? place name with
  | some value => JsonForm.read value
  | none => some default

def atMost (members : Members) (count : Nat) : Bool :=
  match members with
  | .named _ => true
  | .listed items => items.length ≤ count

end Members

def readRecord {α : Type} (count : Nat) (read : Members → Option α) (value : Json) : Option α := do
  let members ← value.members?
  if members.atMost count then read members else none

structure Variant where
  name : String
  payload : Option Json

def variant? : Json → Option Variant
  | .text name => some ⟨name, none⟩
  | .object [(name, payload)] => some ⟨name, some payload⟩
  | _ => none

def bareVariant? (value : Json) : Option String :=
  match value.variant? with
  | some ⟨name, none⟩ => some name
  | some ⟨name, some .null⟩ => some name
  | _ => none

def tagged? (tag : String) : Json → Option (String × Members)
  | .object members =>
    match members.lookup tag with
    | some (.text name) => some (name, .named members)
    | _ => none
  | .list (.text name :: items) => some (name, .listed items)
  | _ => none

end Json

/-! ## Forms of simple values -/

def Json.integerIn? (least greatest : Int) : Json → Option Int
  | .integer value => if least ≤ value ∧ value ≤ greatest then some value else none
  | _ => none

instance : JsonForm Bool where
  write := .bool
  read
    | .bool value => some value
    | _ => none

instance : JsonForm String where
  write := .text
  read
    | .text value => some value
    | _ => none

instance : JsonForm UInt8 where
  write value := .integer value.toNat
  read value := (value.integerIn? 0 (UInt8.size - 1)).map fun n => UInt8.ofNat n.toNat

instance : JsonForm UInt32 where
  write value := .integer value.toNat
  read value := (value.integerIn? 0 (UInt32.size - 1)).map fun n => UInt32.ofNat n.toNat

instance : JsonForm UInt64 where
  write value := .integer value.toNat
  read value := (value.integerIn? 0 (UInt64.size - 1)).map fun n => UInt64.ofNat n.toNat

instance : JsonForm Int64 where
  write value := .integer value.toInt
  read value := (value.integerIn? Int64.minValue.toInt Int64.maxValue.toInt).map Int64.ofInt

instance {α : Type} [JsonForm α] : JsonForm (Option α) where
  write
    | none => .null
    | some value => JsonForm.write value
  read
    | .null => some none
    | value => (JsonForm.read value).map some
  missing := some none

instance {α : Type} [JsonForm α] : JsonForm (List α) where
  write values := .list (values.map JsonForm.write)
  read
    | .list items => items.mapM JsonForm.read
    | _ => none

def Json.orEmpty : Json → Json
  | .null => .object []
  | value => value

end WalletPolicy

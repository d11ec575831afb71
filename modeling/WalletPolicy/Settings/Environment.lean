import WalletPolicy.Settings.Layers
import WalletPolicy.Toml.Scalar

/-!
Settings from environment variables, for places that no file has a value for. A text stays a text
where the setting is a number or a truth value and the text does not read as one.
-/
namespace WalletPolicy

inductive VariableKind where
  | text
  | number
  | truth
  deriving DecidableEq

structure SettingVariable where
  variableName : String
  table : String
  key : String
  kind : VariableKind
  deriving DecidableEq

abbrev Variables := List (String × String)

def integerText? (written : String) : Option Toml :=
  let (isNegative, digits) := Toml.sign written.toList
  if digits.isEmpty || !digits.all Char.isDigit then none
  else
    let n : Int := Toml.numberOf 10 digits
    Toml.boundedInteger (if isNegative then -n else n)

def truthText? (written : String) : Option Toml :=
  if written = "true" then some (.boolean true)
  else if written = "false" then some (.boolean false)
  else none

namespace VariableKind

def valueOf (kind : VariableKind) (written : String) : Toml :=
  match kind with
  | .text => .text written
  | .number => (integerText? written).getD (.text written)
  | .truth => (truthText? written).getD (.text written)

end VariableKind

namespace SettingVariable

def all : List SettingVariable :=
  [⟨"WARDEN_PROFILE", "policy", "profile", .text⟩,
    ⟨"WARDEN_HOME_CHAIN_ID", "wallet", "home_chain_id", .number⟩,
    ⟨"WARDEN_WALLET_ADDRESS", "wallet", "address", .text⟩,
    ⟨"WARDEN_FROZEN", "wallet", "frozen", .truth⟩,
    ⟨"WARDEN_QUOTE_TIMEOUT_MS", "quote", "timeout_ms", .number⟩,
    ⟨"WARDEN_LOG_LEVEL", "logging", "level", .text⟩,
    ⟨"WARDEN_LOG_FORMAT", "logging", "format", .text⟩]

def path (setting : SettingVariable) : List String := [setting.table, setting.key]

def place (setting : SettingVariable) : String := dottedPlace setting.table setting.key

end SettingVariable

/-- Put a value at a path. Tables on the way are made where they are missing; a leaf on the way is
left as it is, and then nothing changes. -/
def Toml.put (tree : Toml) (path : List String) (value : Toml) : Toml :=
  match path with
  | [] => value
  | key :: path =>
    match tree with
    | .table entries =>
      let child := (entries.lookup key).getD (.table [])
      .table (setKey entries key (child.put path value))
    | leaf => leaf

def Provenance.isSettled (provenance : Provenance) (place : String) : Bool :=
  match provenance.source? place with
  | none => false
  | some .defaults => false
  | some _ => true

namespace LayeredTree

def fallback? (layered : LayeredTree) (environment : Variables) (setting : SettingVariable) :
    Option String :=
  if layered.sources.isSettled setting.place then none
  else environment.lookup setting.variableName

def fillIn (layered : LayeredTree) (setting : SettingVariable) (written : String) :
    LayeredTree where
  tree := layered.tree.put setting.path (setting.kind.valueOf written)
  sources := layered.sources.note .environment setting.place

def fillAll (layered : LayeredTree) (environment : Variables) :
    List SettingVariable → LayeredTree × Nat
  | [] => (layered, 0)
  | setting :: settings =>
    match layered.fallback? environment setting with
    | none => layered.fillAll environment settings
    | some written =>
      let (filled, count) := (layered.fillIn setting written).fillAll environment settings
      (filled, count + 1)

def withVariables (layered : LayeredTree) (environment : Variables) : LayeredTree × Nat :=
  layered.fillAll environment SettingVariable.all

end LayeredTree

end WalletPolicy

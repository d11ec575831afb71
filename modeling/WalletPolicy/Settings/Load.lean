import WalletPolicy.Json.Settings
import WalletPolicy.Settings.Environment
import WalletPolicy.Settings.Validation
import WalletPolicy.Toml.Reader

/-!
The built-in values, under the user's file, under a file that is named, and environment variables
for what neither file sets.
-/
namespace WalletPolicy

inductive FoundFile where
  | missing
  | directory
  | content (data : ByteArray)

inductive ReadFailure where
  | missing
  | directory
  | notText
  deriving DecidableEq

def ReadFailure.message : ReadFailure → String
  | .missing => "entity not found"
  | .directory => "Is a directory (os error 21)"
  | .notText => "stream did not contain valid UTF-8"

def maxSettingsBytes : Nat := 1048576

inductive SettingsError where
  | unreadable (path : String) (cause : ReadFailure)
  | malformed (path : String)
  | tooLarge (path : String) (size : Nat)
  | invalid (fault : SettingsFault)
  deriving DecidableEq

namespace SettingsError

def refusal (field message : String) : String := s!"Validation error in field '{field}': {message}"

def message : SettingsError → String
  | .unreadable path cause => s!"Failed to read config file at {path}: {cause.message}"
  | .malformed path => s!"Failed to parse config file at {path}"
  | .tooLarge path size =>
    refusal path s!"config file is {size} bytes, exceeding the {maxSettingsBytes} byte limit"
  | .invalid fault => refusal fault.field fault.message

end SettingsError

/-! ## Files -/

structure SettingsFile where
  path : String
  found : FoundFile

namespace SettingsFile

def treeOf (path : String) (size : Nat) (written : String) : Except SettingsError Toml :=
  if maxSettingsBytes < size then .error (.tooLarge path size)
  else
    match (Toml.parse written).bind Toml.withMarkedMoments? with
    | some tree => .ok tree
    | none => .error (.malformed path)

def tree? (file : SettingsFile) : Except SettingsError (Option Toml) :=
  match file.found with
  | .missing => .ok none
  | .directory => .error (.unreadable file.path .directory)
  | .content data =>
    match String.fromUTF8? data with
    | none => .error (.unreadable file.path .notText)
    | some written => some <$> treeOf file.path data.size written

def tree (file : SettingsFile) : Except SettingsError Toml := do
  match ← file.tree? with
  | some tree => .ok tree
  | none => .error (.unreadable file.path .missing)

end SettingsFile

/-! ## The layers -/

def defaultTree : Toml :=
  .table [
    ("policy", .table [("profile", .text "balanced")]),
    ("wallet", .table [
      ("home_chain_id", .integer 8453),
      ("frozen", .boolean false),
      ("allowlist", .array []),
      ("entry_point", .text "0x4337084D9E255Ff0702461CF8895CE9E3b5Ff108")]),
    ("approval", .table [
      ("expiry_secs", .integer 180),
      ("max_failed_per_code", .integer 3),
      ("max_global_failures_per_minute", .integer 5)]),
    ("quote", .table [("timeout_ms", .integer 5000)]),
    ("logging", .table [
      ("level", .text "info"),
      ("format", .text "compact"),
      ("directives", .array [])])]

structure PartialLoad where
  layered : LayeredTree
  files : List String

namespace PartialLoad

def defaults : PartialLoad := ⟨.ofLayer .defaults "" defaultTree, []⟩

def add (load : PartialLoad) (layer : Layer) (path : String) (tree : Toml) : PartialLoad where
  layered := load.layered.overlay layer "" tree
  files := load.files ++ [path]

def addIfFound (load : PartialLoad) (layer : Layer) (file : SettingsFile) :
    Except SettingsError PartialLoad := do
  match ← file.tree? with
  | some tree => .ok (load.add layer file.path tree)
  | none => .ok load

def addNamed (load : PartialLoad) (layer : Layer) (file : Option SettingsFile) :
    Except SettingsError PartialLoad := do
  match file with
  | none => .ok load
  | some file => .ok (load.add layer file.path (← file.tree))

end PartialLoad

/-! ## Settings -/

structure LoadedSettings where
  settings : Settings
  sources : Provenance
  files : List String

namespace Settings

def checked (path : String) (settings : Option Settings) : Except SettingsError Settings :=
  match settings with
  | none => .error (.malformed path)
  | some settings =>
    match settings.fault? with
    | some fault => .error (.invalid fault)
    | none => .ok settings

def ofTree (path : String) (tree : Toml) : Except SettingsError Settings :=
  checked path (ofTree? tree)

def ofText (written : String) : Except SettingsError Settings :=
  checked "<string>" ((Toml.parse written).bind ofDocument?)

def ofFile (file : SettingsFile) : Except SettingsError Settings := do
  ofTree file.path (← file.tree)

def load (user : SettingsFile) (named : Option SettingsFile) (environment : Variables) :
    Except SettingsError LoadedSettings := do
  let load ← PartialLoad.defaults.addIfFound .user user
  let load ← load.addNamed .file named
  let (layered, _) := load.layered.withVariables environment
  let settings ← ofTree "<merged config>" layered.tree
  .ok { settings, sources := layered.sources, files := load.files }

end Settings

end WalletPolicy

import WalletPolicy.Settings.Basic

namespace WalletPolicy

inductive LogFormat where
  | pretty
  | compact
  | json
  | full
  deriving DecidableEq

inductive LogError where
  | unknownFormat (name : String)
  deriving DecidableEq

def LogError.message : LogError → String
  | .unknownFormat name => s!"Configuration error: unknown log format '{name}'"

namespace LogFormat

def name : LogFormat → String
  | .pretty => "pretty"
  | .compact => "compact"
  | .json => "json"
  | .full => "full"

def ofName? (name : String) : Option LogFormat :=
  [pretty, compact, json, full].find? fun format => format.name = name

def parse (written : String) : Except LogError LogFormat :=
  let name := String.ofList (written.toList.map Char.toLower)
  match ofName? name with
  | some format => .ok format
  | none => .error (.unknownFormat name)

end LogFormat

inductive LogTarget where
  | stdout
  | stderr
  | file (directory : String)
  deriving DecidableEq

structure LogConfig where
  level : String := "info"
  format : LogFormat := .pretty
  target : LogTarget := .stderr
  timestamps : Bool := true
  fileInfo : Bool := false
  spanEvents : Bool := false
  ansi : Bool := true
  directives : List String := []
  deriving DecidableEq

namespace LogConfig

instance : Inhabited LogConfig := ⟨{}⟩

def toFiles (config : LogConfig) (directory : String) : LogConfig :=
  { config with target := .file directory, ansi := false }

def withDirective (config : LogConfig) (directive : String) : LogConfig :=
  { config with directives := config.directives ++ [directive] }

end LogConfig

def LoggingSettings.toLogConfig (logging : LoggingSettings) : LogConfig where
  level := logging.level
  format :=
    match LogFormat.parse logging.format with
    | .ok format => format
    | .error _ => .pretty
  directives := logging.directives

end WalletPolicy

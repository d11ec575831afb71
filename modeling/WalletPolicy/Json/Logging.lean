import WalletPolicy.Json.Basic
import WalletPolicy.Logging

namespace WalletPolicy

instance : JsonForm LogFormat where
  write format := .text format.name
  read value := value.bareVariant?.bind LogFormat.ofName?

instance : JsonForm LogTarget where
  write
    | .stdout => .text "stdout"
    | .stderr => .text "stderr"
    | .file directory => .object [("file", .text directory)]
  read value :=
    match value.variant?, value.bareVariant? with
    | some ⟨"file", some (.text directory)⟩, _ => some (.file directory)
    | _, some "stdout" => some .stdout
    | _, some "stderr" => some .stderr
    | _, _ => none

instance : JsonForm LogConfig where
  write config :=
    .object [("level", JsonForm.write config.level), ("format", JsonForm.write config.format),
      ("target", JsonForm.write config.target),
      ("timestamps", JsonForm.write config.timestamps),
      ("file_info", JsonForm.write config.fileInfo),
      ("span_events", JsonForm.write config.spanEvents), ("ansi", JsonForm.write config.ansi),
      ("directives", JsonForm.write config.directives)]
  read := Json.readRecord 8 fun members => do
    let standard : LogConfig := {}
    let level ← members.getD 0 "level" standard.level
    let format ← members.getD 1 "format" standard.format
    let target ← members.getD 2 "target" standard.target
    let timestamps ← members.getD 3 "timestamps" standard.timestamps
    let fileInfo ← members.getD 4 "file_info" standard.fileInfo
    let spanEvents ← members.getD 5 "span_events" standard.spanEvents
    let ansi ← members.getD 6 "ansi" standard.ansi
    let directives ← members.getD 7 "directives" standard.directives
    some { level, format, target, timestamps, fileInfo, spanEvents, ansi, directives }

end WalletPolicy

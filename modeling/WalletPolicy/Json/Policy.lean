import WalletPolicy.Decision
import WalletPolicy.Json.Basic
import WalletPolicy.Profile
import WalletPolicy.Spending.Check

namespace WalletPolicy

/-! ## Decisions -/

namespace Decision

def toJson : Decision → Json
  | .allow => .object [("decision", .text "allow")]
  | .requireApproval reason =>
    .object [("decision", .text "require_approval"), ("reason", .text reason)]
  | .deny reason => .object [("decision", .text "deny"), ("reason", .text reason)]

def ofParts? (variant : String) (reason : Option Json) : Option Decision :=
  match variant, reason with
  | "allow", none => some .allow
  | "allow", some .null => some .allow
  | "require_approval", some (.text reason) => some (.requireApproval reason)
  | "deny", some (.text reason) => some (.deny reason)
  | _, _ => none

end Decision

instance : JsonForm Decision where
  write := Decision.toJson
  read
    | .object members => do
      let variant ← (← members.lookup "decision").bareVariant?
      Decision.ofParts? variant (members.lookup "reason")
    | .list [variant, reason] => do
      Decision.ofParts? (← variant.bareVariant?) (some reason)
    | _ => none

/-! ## Profiles -/

instance : JsonForm Profile where
  write profile :=
    .object [("name", JsonForm.write profile.name),
      ("per_tx_native_cap", JsonForm.write profile.perTxNativeCap),
      ("daily_native_cap", JsonForm.write profile.dailyNativeCap),
      ("per_tx_stablecoin_cap", JsonForm.write profile.perTxStablecoinCap),
      ("daily_stablecoin_cap", JsonForm.write profile.dailyStablecoinCap),
      ("max_tx_per_hour", JsonForm.write profile.maxTxPerHour),
      ("min_cooldown_secs", JsonForm.write profile.minCooldownSecs),
      ("max_slippage_bps", JsonForm.write profile.maxSlippageBps)]
  read := Json.readRecord 8 fun members => do
    let name ← members.get 0 "name"
    let perTxNativeCap ← members.get 1 "per_tx_native_cap"
    let dailyNativeCap ← members.get 2 "daily_native_cap"
    let perTxStablecoinCap ← members.get 3 "per_tx_stablecoin_cap"
    let dailyStablecoinCap ← members.get 4 "daily_stablecoin_cap"
    let maxTxPerHour ← members.get 5 "max_tx_per_hour"
    let minCooldownSecs ← members.get 6 "min_cooldown_secs"
    let maxSlippageBps ← members.get 7 "max_slippage_bps"
    some {
      name, perTxNativeCap, dailyNativeCap, perTxStablecoinCap, dailyStablecoinCap, maxTxPerHour,
      minCooldownSecs, maxSlippageBps }

instance : JsonForm ProfileOverrides where
  write overrides :=
    .object [("per_tx_native_cap", JsonForm.write overrides.perTxNativeCap),
      ("daily_native_cap", JsonForm.write overrides.dailyNativeCap),
      ("per_tx_stablecoin_cap", JsonForm.write overrides.perTxStablecoinCap),
      ("daily_stablecoin_cap", JsonForm.write overrides.dailyStablecoinCap),
      ("max_tx_per_hour", JsonForm.write overrides.maxTxPerHour),
      ("min_cooldown_secs", JsonForm.write overrides.minCooldownSecs),
      ("max_slippage_bps", JsonForm.write overrides.maxSlippageBps)]
  read := Json.readRecord 7 fun members => do
    let perTxNativeCap ← members.get 0 "per_tx_native_cap"
    let dailyNativeCap ← members.get 1 "daily_native_cap"
    let perTxStablecoinCap ← members.get 2 "per_tx_stablecoin_cap"
    let dailyStablecoinCap ← members.get 3 "daily_stablecoin_cap"
    let maxTxPerHour ← members.get 4 "max_tx_per_hour"
    let minCooldownSecs ← members.get 5 "min_cooldown_secs"
    let maxSlippageBps ← members.get 6 "max_slippage_bps"
    some {
      perTxNativeCap, dailyNativeCap, perTxStablecoinCap, dailyStablecoinCap, maxTxPerHour,
      minCooldownSecs, maxSlippageBps }

/-! ## Spend limits -/

instance : JsonForm Budgets where
  write budgets :=
    .object [("native", JsonForm.write budgets.native),
      ("stablecoin", JsonForm.write budgets.stablecoin)]
  read := Json.readRecord 2 fun members => do
    let native ← members.get 0 "native"
    let stablecoin ← members.get 1 "stablecoin"
    some { native, stablecoin }

namespace LimitViolation

def toJson : LimitViolation → Json
  | .perTxNative amount cap =>
    .object [("PerTxNative",
      .object [("amount", JsonForm.write amount), ("cap", JsonForm.write cap)])]
  | .perTxStablecoin amount cap =>
    .object [("PerTxStablecoin",
      .object [("amount", JsonForm.write amount), ("cap", JsonForm.write cap)])]
  | .dailyNative spent amount cap =>
    .object [("DailyNative",
      .object [("spent", JsonForm.write spent), ("amount", JsonForm.write amount),
        ("cap", JsonForm.write cap)])]
  | .dailyStablecoin spent amount cap =>
    .object [("DailyStablecoin",
      .object [("spent", JsonForm.write spent), ("amount", JsonForm.write amount),
        ("cap", JsonForm.write cap)])]
  | .hourlyRate count limit =>
    .object [("HourlyRate",
      .object [("count", JsonForm.write count), ("max", JsonForm.write limit)])]
  | .cooldown remainingSecs =>
    .object [("Cooldown", .object [("remaining_secs", JsonForm.write remainingSecs)])]

def ofMembers? (limit : String) (figures : List (String × Json)) : Option LimitViolation :=
  let members := Json.Members.named figures
  match limit with
  | "PerTxNative" => do
    let amount ← members.get 0 "amount"
    let cap ← members.get 1 "cap"
    some (.perTxNative amount cap)
  | "PerTxStablecoin" => do
    let amount ← members.get 0 "amount"
    let cap ← members.get 1 "cap"
    some (.perTxStablecoin amount cap)
  | "DailyNative" => do
    let spent ← members.get 0 "spent"
    let amount ← members.get 1 "amount"
    let cap ← members.get 2 "cap"
    some (.dailyNative spent amount cap)
  | "DailyStablecoin" => do
    let spent ← members.get 0 "spent"
    let amount ← members.get 1 "amount"
    let cap ← members.get 2 "cap"
    some (.dailyStablecoin spent amount cap)
  | "HourlyRate" => do
    let count ← members.get 0 "count"
    let limit ← members.get 1 "max"
    some (.hourlyRate count limit)
  | "Cooldown" => do
    let remainingSecs ← members.get 0 "remaining_secs"
    some (.cooldown remainingSecs)
  | _ => none

end LimitViolation

instance : JsonForm LimitViolation where
  write := LimitViolation.toJson
  read value :=
    match value.variant? with
    | some ⟨limit, some (.object figures)⟩ => LimitViolation.ofMembers? limit figures
    | _ => none

end WalletPolicy

import WalletPolicy.Json.Basic
import WalletPolicy.Settings.Basic
import WalletPolicy.Settings.Layers
import WalletPolicy.Toml.Moments

/-!
Every member of settings may be left out and then has its default. `Settings.ofTree?` reads a tree
of any origin; `Settings.ofDocument?` reads the tree of a single text with less care.
-/
namespace WalletPolicy

namespace PolicySettings

def toJson (policy : PolicySettings) : Json :=
  let overrides := policy.overrides
  .object [("profile", JsonForm.write policy.profile),
    ("per_tx_eth_cap", JsonForm.write overrides.perTxNativeCap),
    ("daily_eth_cap", JsonForm.write overrides.dailyNativeCap),
    ("per_tx_stablecoin_cap", JsonForm.write overrides.perTxStablecoinCap),
    ("daily_stablecoin_cap", JsonForm.write overrides.dailyStablecoinCap),
    ("max_tx_per_hour", JsonForm.write overrides.maxTxPerHour),
    ("min_cooldown_secs", JsonForm.write overrides.minCooldownSecs),
    ("max_slippage_bps", JsonForm.write overrides.maxSlippageBps)]

def ofMembers? (members : Json.Members) : Option PolicySettings := do
  let standard : PolicySettings := {}
  let profile ← members.getD 0 "profile" standard.profile
  let perTxNativeCap ← members.getD 1 "per_tx_eth_cap" none
  let dailyNativeCap ← members.getD 2 "daily_eth_cap" none
  let perTxStablecoinCap ← members.getD 3 "per_tx_stablecoin_cap" none
  let dailyStablecoinCap ← members.getD 4 "daily_stablecoin_cap" none
  let maxTxPerHour ← members.getD 5 "max_tx_per_hour" none
  let minCooldownSecs ← members.getD 6 "min_cooldown_secs" none
  let maxSlippageBps ← members.getD 7 "max_slippage_bps" none
  some {
    profile
    overrides := {
      perTxNativeCap, dailyNativeCap, perTxStablecoinCap, dailyStablecoinCap, maxTxPerHour,
      minCooldownSecs, maxSlippageBps } }

end PolicySettings

instance : JsonForm PolicySettings where
  write := PolicySettings.toJson
  read := Json.readRecord 8 PolicySettings.ofMembers?

instance : JsonForm WalletSettings where
  write wallet :=
    .object [("address", JsonForm.write wallet.address),
      ("home_chain_id", JsonForm.write wallet.homeChainId),
      ("frozen", JsonForm.write wallet.frozen),
      ("allowlist", JsonForm.write wallet.allowlist),
      ("entry_point", JsonForm.write wallet.entryPoint)]
  read := Json.readRecord 5 fun members => do
    let standard : WalletSettings := {}
    let address ← members.getD 0 "address" standard.address
    let homeChainId ← members.getD 1 "home_chain_id" standard.homeChainId
    let frozen ← members.getD 2 "frozen" standard.frozen
    let allowlist ← members.getD 3 "allowlist" standard.allowlist
    let entryPoint ← members.getD 4 "entry_point" standard.entryPoint
    some { address, homeChainId, frozen, allowlist, entryPoint }

instance : JsonForm ApprovalSettings where
  write approval :=
    .object [("expiry_secs", JsonForm.write approval.expirySecs),
      ("max_failed_per_code", JsonForm.write approval.maxFailedPerCode),
      ("max_global_failures_per_minute", JsonForm.write approval.maxFailuresPerMinute)]
  read := Json.readRecord 3 fun members => do
    let standard : ApprovalSettings := {}
    let expirySecs ← members.getD 0 "expiry_secs" standard.expirySecs
    let maxFailedPerCode ← members.getD 1 "max_failed_per_code" standard.maxFailedPerCode
    let maxFailuresPerMinute ←
      members.getD 2 "max_global_failures_per_minute" standard.maxFailuresPerMinute
    some { expirySecs, maxFailedPerCode, maxFailuresPerMinute }

instance : JsonForm QuoteSettings where
  write quote := .object [("timeout_ms", JsonForm.write quote.timeoutMillis)]
  read := Json.readRecord 1 fun members => do
    let standard : QuoteSettings := {}
    let timeoutMillis ← members.getD 0 "timeout_ms" standard.timeoutMillis
    some { timeoutMillis }

instance : JsonForm LoggingSettings where
  write logging :=
    .object [("level", JsonForm.write logging.level), ("format", JsonForm.write logging.format),
      ("directives", JsonForm.write logging.directives)]
  read := Json.readRecord 3 fun members => do
    let standard : LoggingSettings := {}
    let level ← members.getD 0 "level" standard.level
    let format ← members.getD 1 "format" standard.format
    let directives ← members.getD 2 "directives" standard.directives
    some { level, format, directives }

instance : JsonForm Settings where
  write settings :=
    .object [("policy", JsonForm.write settings.policy),
      ("wallet", JsonForm.write settings.wallet),
      ("approval", JsonForm.write settings.approval),
      ("quote", JsonForm.write settings.quote),
      ("logging", JsonForm.write settings.logging)]
  read := Json.readRecord 5 fun members => do
    let standard : Settings := {}
    let policy ← members.getD 0 "policy" standard.policy
    let wallet ← members.getD 1 "wallet" standard.wallet
    let approval ← members.getD 2 "approval" standard.approval
    let quote ← members.getD 3 "quote" standard.quote
    let logging ← members.getD 4 "logging" standard.logging
    some { policy, wallet, approval, quote, logging }

instance : JsonForm Layer where
  write layer := .text layer.name
  read value := value.bareVariant?.bind Layer.ofName?

namespace Settings

def ofTree? (tree : Toml) : Option Settings := JsonForm.read tree.toJson

def sectionSizes : List (String × Nat) :=
  [("policy", 8), ("wallet", 5), ("approval", 3), ("quote", 1), ("logging", 3)]

def trimmed (key : String) (value : Toml) : Toml :=
  match sectionSizes.lookup key, value with
  | some size, .array items => .array (items.take size)
  | _, _ => value

/-- The settings that the tree of a single text holds. Here a date is a table without keys, and the
items of a list behind the last member of a section do not count. -/
def ofDocument? (tree : Toml) : Option Settings :=
  match tree.withoutMoments with
  | .table entries => ofTree? (.table (entries.map fun (key, value) => (key, trimmed key value)))
  | _ => none

end Settings

end WalletPolicy

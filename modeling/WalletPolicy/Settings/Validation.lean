import WalletPolicy.Settings.Basic

namespace WalletPolicy

inductive SettingsFault where
  | unknownProfile (name : String)
  | zero (field : String)
  | zeroChain
  | zeroExpiry
  | zeroTimeout
  | nativeCaps (perTx daily : UInt64)
  | stablecoinCaps (perTx daily : UInt64)
  | slippage (points : UInt32)
  | notAddress (field written : String)
  | unknownLevel (level : String)
  | unknownFormat (format : String)
  deriving DecidableEq

namespace SettingsFault

def levels : List String := ["trace", "debug", "info", "warn", "error"]

def formats : List String := ["pretty", "compact", "json", "full"]

def maxSlippage : UInt32 := 10000

def field : SettingsFault → String
  | .unknownProfile _ => "policy.profile"
  | .zero field => field
  | .zeroChain => "wallet.home_chain_id"
  | .zeroExpiry => "approval.expiry_secs"
  | .zeroTimeout => "quote.timeout_ms"
  | .nativeCaps .. => "policy.per_tx_eth_cap"
  | .stablecoinCaps .. => "policy.per_tx_stablecoin_cap"
  | .slippage _ => "policy.max_slippage_bps"
  | .notAddress field _ => field
  | .unknownLevel _ => "logging.level"
  | .unknownFormat _ => "logging.format"

def choices (names : List String) : String := "expected one of: " ++ String.intercalate ", " names

def message : SettingsFault → String
  | .unknownProfile name => s!"unknown profile '{name}'; {choices Profile.names}"
  | .zero _ => "must be greater than zero"
  | .zeroChain => "chain id must be greater than zero"
  | .zeroExpiry => "expiry must be greater than zero"
  | .zeroTimeout => "timeout must be greater than zero"
  | .nativeCaps perTx daily =>
    s!"per_tx_eth_cap ({perTx.toNat}) must not exceed daily_eth_cap ({daily.toNat})"
  | .stablecoinCaps perTx daily =>
    s!"per_tx_stablecoin_cap ({perTx.toNat}) must not exceed " ++
      s!"daily_stablecoin_cap ({daily.toNat})"
  | .slippage points => s!"{points.toNat} is out of range; must be 0-{maxSlippage.toNat}"
  | .notAddress _ written => s!"'{written}' is not a 20-byte hex address"
  | .unknownLevel level => s!"unsupported log level '{level}'; {choices levels}"
  | .unknownFormat format => s!"unsupported log format '{format}'; {choices formats}"

end SettingsFault

def faultIf (broken : Bool) (fault : SettingsFault) : List SettingsFault :=
  if broken then [fault] else []

def addressFaults (field written : String) : List SettingsFault :=
  faultIf (!Address.looksValid written) (.notAddress field written)

/-- The faults of a profile's changes. Caps are compared only where both are given. -/
def ProfileOverrides.faults (overrides : ProfileOverrides) : List SettingsFault :=
  faultIf (overrides.perTxNativeCap == some 0) (.zero "policy.per_tx_eth_cap") ++
  faultIf (overrides.dailyNativeCap == some 0) (.zero "policy.daily_eth_cap") ++
  faultIf (overrides.perTxStablecoinCap == some 0) (.zero "policy.per_tx_stablecoin_cap") ++
  faultIf (overrides.dailyStablecoinCap == some 0) (.zero "policy.daily_stablecoin_cap") ++
  faultIf (overrides.maxTxPerHour == some 0) (.zero "policy.max_tx_per_hour") ++
  (match overrides.perTxNativeCap, overrides.dailyNativeCap with
    | some perTx, some daily => faultIf (daily < perTx) (.nativeCaps perTx daily)
    | _, _ => []) ++
  (match overrides.perTxStablecoinCap, overrides.dailyStablecoinCap with
    | some perTx, some daily => faultIf (daily < perTx) (.stablecoinCaps perTx daily)
    | _, _ => []) ++
  (match overrides.maxSlippageBps with
    | some points => faultIf (SettingsFault.maxSlippage < points) (.slippage points)
    | none => [])

def PolicySettings.faults (policy : PolicySettings) : List SettingsFault :=
  faultIf (!Profile.names.contains policy.profile) (.unknownProfile policy.profile) ++
  policy.overrides.faults

def allowlistField (place : Nat) : String := s!"wallet.allowlist[{place}]"

def WalletSettings.faults (wallet : WalletSettings) : List SettingsFault :=
  (match wallet.address with
    | some address => addressFaults "wallet.address" address
    | none => []) ++
  faultIf (wallet.homeChainId == 0) .zeroChain ++
  (wallet.allowlist.zipIdx.flatMap fun entry => addressFaults (allowlistField entry.2) entry.1) ++
  addressFaults "wallet.entry_point" wallet.entryPoint

def ApprovalSettings.faults (approval : ApprovalSettings) : List SettingsFault :=
  faultIf (approval.expirySecs == 0) .zeroExpiry ++
  faultIf (approval.maxFailedPerCode == 0) (.zero "approval.max_failed_per_code") ++
  faultIf (approval.maxFailuresPerMinute == 0) (.zero "approval.max_global_failures_per_minute")

def QuoteSettings.faults (quote : QuoteSettings) : List SettingsFault :=
  faultIf (quote.timeoutMillis == 0) .zeroTimeout

def LoggingSettings.faults (logging : LoggingSettings) : List SettingsFault :=
  faultIf (!SettingsFault.levels.contains logging.level) (.unknownLevel logging.level) ++
  faultIf (!SettingsFault.formats.contains logging.format) (.unknownFormat logging.format)

namespace Settings

def faults (settings : Settings) : List SettingsFault :=
  settings.policy.faults ++ settings.wallet.faults ++ settings.approval.faults ++
    settings.quote.faults ++ settings.logging.faults

def fault? (settings : Settings) : Option SettingsFault := settings.faults.head?

def IsValid (settings : Settings) : Prop := settings.faults = []

instance (settings : Settings) : Decidable settings.IsValid :=
  inferInstanceAs (Decidable (settings.faults = []))

end Settings

end WalletPolicy

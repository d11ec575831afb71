import WalletPolicy.Approval.Desk
import WalletPolicy.Profile
import WalletPolicy.UserOperation

namespace WalletPolicy

structure PolicySettings where
  profile : String := "balanced"
  overrides : ProfileOverrides := {}
  deriving DecidableEq

structure WalletSettings where
  address : Option String := none
  homeChainId : UInt64 := 8453
  frozen : Bool := false
  allowlist : List String := []
  entryPoint : String := "0x4337084D9E255Ff0702461CF8895CE9E3b5Ff108"
  deriving DecidableEq

structure ApprovalSettings where
  expirySecs : UInt32 := 180
  maxFailedPerCode : UInt32 := 3
  maxFailuresPerMinute : UInt32 := 5
  deriving DecidableEq

structure QuoteSettings where
  timeoutMillis : UInt64 := 5000
  deriving DecidableEq

structure LoggingSettings where
  level : String := "info"
  format : String := "compact"
  directives : List String := []
  deriving DecidableEq

structure Settings where
  policy : PolicySettings := {}
  wallet : WalletSettings := {}
  approval : ApprovalSettings := {}
  quote : QuoteSettings := {}
  logging : LoggingSettings := {}
  deriving DecidableEq

instance : Inhabited Settings := ⟨{}⟩

end WalletPolicy

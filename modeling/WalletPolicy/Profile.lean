import WalletPolicy.Address

namespace WalletPolicy

structure Profile where
  name : String
  perTxNativeCap : UInt64
  dailyNativeCap : UInt64
  perTxStablecoinCap : UInt64
  dailyStablecoinCap : UInt64
  maxTxPerHour : UInt32
  minCooldownSecs : UInt64
  maxSlippageBps : UInt32
  deriving DecidableEq

structure ProfileOverrides where
  perTxNativeCap : Option UInt64 := none
  dailyNativeCap : Option UInt64 := none
  perTxStablecoinCap : Option UInt64 := none
  dailyStablecoinCap : Option UInt64 := none
  maxTxPerHour : Option UInt32 := none
  minCooldownSecs : Option UInt64 := none
  maxSlippageBps : Option UInt32 := none
  deriving DecidableEq

def ProfileOverrides.isEmpty (overrides : ProfileOverrides) : Bool := overrides == {}

inductive PolicyError where
  | unknownProfile (name : String)
  | invalidAddress (field : String) (cause : AddressError)
  | nativeCaps (perTx daily : UInt64)
  | stablecoinCaps (perTx daily : UInt64)
  deriving DecidableEq

def PolicyError.message : PolicyError → String
  | .unknownProfile name => s!"unknown security profile: {name}"
  | .invalidAddress field cause => s!"invalid address in {field}: {cause.message}"
  | .nativeCaps perTx daily =>
    s!"policy configuration error: per-tx ETH cap {perTx.toNat} exceeds daily ETH cap {daily.toNat}"
  | .stablecoinCaps perTx daily =>
    s!"policy configuration error: per-tx stablecoin cap {perTx.toNat} " ++
      s!"exceeds daily stablecoin cap {daily.toNat}"

namespace Profile

def balanced : Profile where
  name := "balanced"
  perTxNativeCap := 50000000000000000
  dailyNativeCap := 250000000000000000
  perTxStablecoinCap := 100000000
  dailyStablecoinCap := 500000000
  maxTxPerHour := 10
  minCooldownSecs := 30
  maxSlippageBps := 100

def autonomous : Profile where
  name := "autonomous"
  perTxNativeCap := 250000000000000000
  dailyNativeCap := 1000000000000000000
  perTxStablecoinCap := 500000000
  dailyStablecoinCap := 2500000000
  maxTxPerHour := 30
  minCooldownSecs := 10
  maxSlippageBps := 200

instance : Inhabited Profile := ⟨balanced⟩

def names : List String := ["balanced", "autonomous"]

def ofName (name : String) : Except PolicyError Profile :=
  if name = "balanced" then .ok balanced
  else if name = "autonomous" then .ok autonomous
  else .error (.unknownProfile name)

def withOverrides (profile : Profile) (overrides : ProfileOverrides) : Profile where
  name := profile.name
  perTxNativeCap := overrides.perTxNativeCap.getD profile.perTxNativeCap
  dailyNativeCap := overrides.dailyNativeCap.getD profile.dailyNativeCap
  perTxStablecoinCap := overrides.perTxStablecoinCap.getD profile.perTxStablecoinCap
  dailyStablecoinCap := overrides.dailyStablecoinCap.getD profile.dailyStablecoinCap
  maxTxPerHour := overrides.maxTxPerHour.getD profile.maxTxPerHour
  minCooldownSecs := overrides.minCooldownSecs.getD profile.minCooldownSecs
  maxSlippageBps := overrides.maxSlippageBps.getD profile.maxSlippageBps

end Profile

end WalletPolicy

import WalletPolicy.Guard.Session
import WalletPolicy.Settings.Validation

/-!
The caps that are compared here are those of the whole profile, with every change made; faults of
settings only compare caps that are both given.
-/
namespace WalletPolicy

structure EffectivePolicy where
  profile : Profile
  limits : ApprovalLimits
  allowlist : List Address
  wallet : Option Address
  homeChainId : UInt64
  entryPoint : Address
  frozen : Bool
  quoteTimeout : UInt64
  deriving DecidableEq

def addressOfSetting (field written : String) : Except PolicyError Address :=
  match Address.parse written with
  | .ok address => .ok address
  | .error cause => .error (.invalidAddress field cause)

def PolicySettings.toProfile (policy : PolicySettings) : Except PolicyError Profile := do
  let base ← Profile.ofName policy.profile
  let profile := base.withOverrides policy.overrides
  if profile.dailyNativeCap < profile.perTxNativeCap then
    .error (.nativeCaps profile.perTxNativeCap profile.dailyNativeCap)
  else if profile.dailyStablecoinCap < profile.perTxStablecoinCap then
    .error (.stablecoinCaps profile.perTxStablecoinCap profile.dailyStablecoinCap)
  else .ok profile

def ApprovalSettings.toLimits (approval : ApprovalSettings) : ApprovalLimits :=
  { ApprovalLimits.standard.withExpirySecs approval.expirySecs with
    maxFailedPerCode := approval.maxFailedPerCode
    maxGlobalFailures := approval.maxFailuresPerMinute.toNat }

def WalletSettings.toAllowlist (wallet : WalletSettings) : Except PolicyError (List Address) :=
  wallet.allowlist.zipIdx.mapM fun entry => addressOfSetting (allowlistField entry.2) entry.1

def WalletSettings.toAddress (wallet : WalletSettings) : Except PolicyError (Option Address) :=
  wallet.address.mapM (addressOfSetting "wallet.address")

namespace Settings

def toPolicy (settings : Settings) : Except PolicyError EffectivePolicy := do
  let allowlist ← settings.wallet.toAllowlist
  let wallet ← settings.wallet.toAddress
  let profile ← settings.policy.toProfile
  let entryPoint ← addressOfSetting "wallet.entry_point" settings.wallet.entryPoint
  .ok {
    profile, allowlist, wallet, entryPoint
    limits := settings.approval.toLimits
    homeChainId := settings.wallet.homeChainId
    frozen := settings.wallet.frozen
    quoteTimeout := settings.quote.timeoutMillis }

end Settings

namespace EffectivePolicy

def guard (policy : EffectivePolicy) : Guard :=
  { Guard.ofProfile policy.profile with
    quoteTimeout := policy.quoteTimeout
    wallet := policy.wallet
    homeChain := some policy.homeChainId }

def posture (policy : EffectivePolicy) : Posture :=
  { (Posture.ofProfile policy.profile).allowAll policy.allowlist with frozen := policy.frozen }

end EffectivePolicy

end WalletPolicy

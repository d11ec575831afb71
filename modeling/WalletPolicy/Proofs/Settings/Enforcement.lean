import WalletPolicy.Proofs.Results
import WalletPolicy.Proofs.Text.Addresses
import WalletPolicy.Settings.Policy

/-!
# What valid settings become

The faults of settings and the reading of settings know nothing of each other: the one looks at
texts and single limits, the other makes addresses and a whole profile. `Settings.toPolicy_of_valid`
says how they fit.
-/

namespace WalletPolicy

/-! ## What validity says -/

theorem faultIf_eq_nil_iff {broken : Bool} {fault : SettingsFault} :
    faultIf broken fault = [] ↔ broken = false := by
  unfold faultIf
  cases broken <;> simp

theorem addressFaults_eq_nil_iff {field written : String} :
    addressFaults field written = [] ↔ ∃ address, Address.parse written = .ok address := by
  rw [addressFaults, faultIf_eq_nil_iff, ← Address.looksValid_iff, Bool.not_eq_false']

theorem pos_of_ne_some_zero {given : Option UInt64} (nonzero : given ≠ some 0) :
    ∀ cap ∈ given, 0 < cap := by
  rintro cap rfl
  exact UInt64.pos_iff_ne_zero.2 fun zero => nonzero (congrArg some zero)

structure ProfileOverrides.Faultless (overrides : ProfileOverrides) : Prop where
  perTxNative : ∀ cap ∈ overrides.perTxNativeCap, 0 < cap
  dailyNative : ∀ cap ∈ overrides.dailyNativeCap, 0 < cap
  perTxStablecoin : ∀ cap ∈ overrides.perTxStablecoinCap, 0 < cap
  dailyStablecoin : ∀ cap ∈ overrides.dailyStablecoinCap, 0 < cap
  hourlyRate : ∀ limit ∈ overrides.maxTxPerHour, 0 < limit
  slippage : ∀ points ∈ overrides.maxSlippageBps, points ≤ SettingsFault.maxSlippage

theorem ProfileOverrides.faultless_of_faults {overrides : ProfileOverrides}
    (valid : overrides.faults = []) : overrides.Faultless := by
  simp only [faults, List.append_eq_nil_iff, faultIf_eq_nil_iff, beq_eq_false_iff_ne] at valid
  obtain ⟨⟨⟨⟨⟨⟨⟨perTxNative, dailyNative⟩, perTxStablecoin⟩, dailyStablecoin⟩, hourlyRate⟩, -⟩, -⟩,
    slippage⟩ := valid
  constructor
  case perTxNative => exact pos_of_ne_some_zero perTxNative
  case dailyNative => exact pos_of_ne_some_zero dailyNative
  case perTxStablecoin => exact pos_of_ne_some_zero perTxStablecoin
  case dailyStablecoin => exact pos_of_ne_some_zero dailyStablecoin
  case hourlyRate =>
    intro limit given
    exact UInt32.pos_iff_ne_zero.2 fun zero => hourlyRate (zero ▸ given)
  case slippage =>
    intro points given
    rw [Option.mem_def.1 given] at slippage
    simpa using faultIf_eq_nil_iff.1 slippage

/-! ## The profile -/

namespace Profile

structure Sound (profile : Profile) : Prop where
  perTxNative : 0 < profile.perTxNativeCap
  dailyNative : 0 < profile.dailyNativeCap
  perTxStablecoin : 0 < profile.perTxStablecoinCap
  dailyStablecoin : 0 < profile.dailyStablecoinCap
  hourlyRate : 0 < profile.maxTxPerHour
  slippage : profile.maxSlippageBps ≤ SettingsFault.maxSlippage

variable {name : String} {base : Profile}

theorem ofName_eq_ok_iff :
    ofName name = .ok base ↔
      name = "balanced" ∧ base = balanced ∨ name = "autonomous" ∧ base = autonomous := by
  unfold ofName
  split
  · rename_i isBalanced
    simp [isBalanced, eq_comm]
  · rename_i notBalanced
    split
    · rename_i isAutonomous
      simp [isAutonomous, eq_comm]
    · rename_i notAutonomous
      simp [notBalanced, notAutonomous]

theorem exists_ofName_iff : (∃ base, ofName name = .ok base) ↔ names.contains name = true := by
  simp only [ofName_eq_ok_iff, names, List.contains_iff_mem, List.mem_cons, List.not_mem_nil,
    or_false]
  constructor
  · rintro ⟨base, ⟨isBalanced, -⟩ | ⟨isAutonomous, -⟩⟩
    · exact .inl isBalanced
    · exact .inr isAutonomous
  · rintro (isBalanced | isAutonomous)
    · exact ⟨balanced, .inl ⟨isBalanced, rfl⟩⟩
    · exact ⟨autonomous, .inr ⟨isAutonomous, rfl⟩⟩

theorem sound_of_ofName (named : ofName name = .ok base) : base.Sound := by
  rcases ofName_eq_ok_iff.1 named with ⟨-, rfl⟩ | ⟨-, rfl⟩ <;> constructor <;> decide

theorem getD_of_forall {Limit : Type} {Fine : Limit → Prop} {given : Option Limit} {standard : Limit}
    (fine : ∀ limit ∈ given, Fine limit) (fineStandard : Fine standard) :
    Fine (given.getD standard) := by
  cases given with
  | none => exact fineStandard
  | some limit => exact fine limit rfl

theorem Sound.withOverrides (sound : base.Sound) {overrides : ProfileOverrides}
    (faultless : overrides.Faultless) : (base.withOverrides overrides).Sound where
  perTxNative := getD_of_forall faultless.perTxNative sound.perTxNative
  dailyNative := getD_of_forall faultless.dailyNative sound.dailyNative
  perTxStablecoin := getD_of_forall faultless.perTxStablecoin sound.perTxStablecoin
  dailyStablecoin := getD_of_forall faultless.dailyStablecoin sound.dailyStablecoin
  hourlyRate := getD_of_forall faultless.hourlyRate sound.hourlyRate
  slippage := getD_of_forall faultless.slippage sound.slippage

structure CapsInOrder (profile : Profile) : Prop where
  native : profile.perTxNativeCap ≤ profile.dailyNativeCap
  stablecoin : profile.perTxStablecoinCap ≤ profile.dailyStablecoinCap

inductive CapError (profile : Profile) : PolicyError → Prop
  | native (order : profile.dailyNativeCap < profile.perTxNativeCap) :
    CapError profile (.nativeCaps profile.perTxNativeCap profile.dailyNativeCap)
  | stablecoin (order : profile.dailyStablecoinCap < profile.perTxStablecoinCap) :
    CapError profile (.stablecoinCaps profile.perTxStablecoinCap profile.dailyStablecoinCap)

theorem CapError.not_capsInOrder {profile : Profile} {cause : PolicyError}
    (error : profile.CapError cause) : ¬ profile.CapsInOrder := by
  rintro ⟨native, stablecoin⟩
  cases error with
  | native order => exact UInt64.not_lt.2 native order
  | stablecoin order => exact UInt64.not_lt.2 stablecoin order

end Profile

namespace PolicySettings

variable {policy : PolicySettings} {base : Profile}

theorem toProfile_cases (named : Profile.ofName policy.profile = .ok base) :
    (policy.toProfile = .ok (base.withOverrides policy.overrides) ∧
        (base.withOverrides policy.overrides).CapsInOrder) ∨
      ∃ cause, policy.toProfile = .error cause ∧
        (base.withOverrides policy.overrides).CapError cause := by
  unfold toProfile
  rw [named]
  simp only [bind, Except.bind]
  split
  · rename_i native
    exact .inr ⟨_, rfl, .native native⟩
  · rename_i native
    split
    · rename_i stablecoin
      exact .inr ⟨_, rfl, .stablecoin stablecoin⟩
    · rename_i stablecoin
      exact .inl ⟨rfl, UInt64.not_lt.1 native, UInt64.not_lt.1 stablecoin⟩

end PolicySettings

/-! ## Addresses -/

theorem addressOfSetting_eq_ok_iff {field written : String} {address : Address} :
    addressOfSetting field written = .ok address ↔ Address.parse written = .ok address := by
  unfold addressOfSetting
  cases Address.parse written <;> simp

namespace WalletSettings

variable {wallet : WalletSettings}

theorem mem_of_toAllowlist {addresses : List Address} (read : wallet.toAllowlist = .ok addresses)
    {address : Address} :
    address ∈ addresses ↔ ∃ written ∈ wallet.allowlist, Address.parse written = .ok address := by
  rw [mem_of_mapM_eq_ok read]
  simp only [addressOfSetting_eq_ok_iff]
  constructor
  · rintro ⟨⟨written, place⟩, member, parsed⟩
    exact ⟨written, List.fst_mem_of_mem_zipIdx member, parsed⟩
  · rintro ⟨written, member, parsed⟩
    rw [← List.zipIdx_map_fst 0 wallet.allowlist] at member
    obtain ⟨entry, isEntry, rfl⟩ := List.mem_map.1 member
    exact ⟨entry, isEntry, parsed⟩

theorem toAddress_eq_ok_iff {address : Option Address} :
    wallet.toAddress = .ok address ↔ wallet.address.map Address.parse = address.map .ok := by
  unfold toAddress
  cases wallet.address with
  | none => cases address <;> simp [pure, Except.pure]
  | some written =>
      simp only [Option.mapM_some, Option.map_some, map_eq_ok_iff, addressOfSetting_eq_ok_iff]
      cases address with
      | none => simp
      | some address => simp

structure Readable (wallet : WalletSettings) : Prop where
  address : ∀ written ∈ wallet.address, ∃ address, Address.parse written = .ok address
  allowlist : ∀ written ∈ wallet.allowlist, ∃ address, Address.parse written = .ok address
  entryPoint : ∃ address, Address.parse wallet.entryPoint = .ok address

theorem readable_of_faults (valid : wallet.faults = []) : wallet.Readable := by
  simp only [faults, List.append_eq_nil_iff, addressFaults_eq_nil_iff, List.flatMap_eq_nil_iff]
    at valid
  obtain ⟨⟨⟨address, -⟩, allowlist⟩, entryPoint⟩ := valid
  refine ⟨?_, ?_, entryPoint⟩
  · intro written given
    rw [Option.mem_def.1 given] at address
    exact addressFaults_eq_nil_iff.1 address
  · intro written member
    rw [← List.zipIdx_map_fst 0 wallet.allowlist] at member
    obtain ⟨entry, isEntry, rfl⟩ := List.mem_map.1 member
    exact allowlist entry isEntry

theorem Readable.toAllowlist (readable : wallet.Readable) :
    ∃ addresses, wallet.toAllowlist = .ok addresses := by
  apply exists_mapM_eq_ok
  intro entry member
  obtain ⟨address, parsed⟩ := readable.allowlist entry.1 (List.fst_mem_of_mem_zipIdx member)
  exact ⟨address, addressOfSetting_eq_ok_iff.2 parsed⟩

theorem Readable.toAddress (readable : wallet.Readable) :
    ∃ address, wallet.toAddress = .ok address := by
  simp only [toAddress_eq_ok_iff]
  cases given : wallet.address with
  | none => exact ⟨none, rfl⟩
  | some written =>
      obtain ⟨address, parsed⟩ := readable.address written given
      exact ⟨some address, by rw [Option.map_some, Option.map_some, parsed]⟩

end WalletSettings

/-! ## The posture -/

namespace Posture

variable {posture : Posture} {address : Address} {addresses : List Address}

theorem allows_allow_iff {other : Address} :
    (posture.allow other).allows address = true ↔ posture.allows address = true ∨ address = other := by
  unfold allow
  split
  · rename_i already
    constructor
    · exact .inl
    · rintro (allowed | rfl)
      · exact allowed
      · exact already
  · simp [allows]

theorem allows_allowAll_iff :
    (posture.allowAll addresses).allows address = true ↔
      posture.allows address = true ∨ address ∈ addresses := by
  induction addresses generalizing posture with
  | nil => simp [allowAll]
  | cons other addresses ih =>
      have step : posture.allowAll (other :: addresses) = (posture.allow other).allowAll addresses :=
        rfl
      rw [step, ih, allows_allow_iff, List.mem_cons, or_assoc]

theorem allow_profile {other : Address} : (posture.allow other).profile = posture.profile := by
  unfold allow
  split <;> rfl

theorem allowAll_profile : (posture.allowAll addresses).profile = posture.profile := by
  induction addresses generalizing posture with
  | nil => rfl
  | cons other addresses ih => exact ih.trans allow_profile

end Posture

/-! ## The policy -/

/-- Whether a policy has sound limits, and otherwise exactly what settings ask for. -/
structure EffectivePolicy.Enforces (policy : EffectivePolicy) (settings : Settings) : Prop where
  sound : policy.profile.Sound
  capsInOrder : policy.profile.CapsInOrder
  profile : policy.posture.profile = policy.profile
  frozen : policy.posture.frozen = settings.wallet.frozen
  allowlist : ∀ address, policy.posture.allows address = true ↔
    ∃ written ∈ settings.wallet.allowlist, Address.parse written = .ok address
  spelling : ∀ address, policy.posture.allows address = true ↔
    ∃ written ∈ settings.wallet.allowlist,
      (Address.digits written).map Char.toLower = Hex.encodeChars address.toBytes
  wallet : settings.wallet.address.map Address.parse = policy.guard.wallet.map .ok
  homeChain : policy.guard.homeChain = some settings.wallet.homeChainId
  quoteTimeout : policy.guard.quoteTimeout = settings.quote.timeoutMillis

namespace Settings

variable {settings : Settings} {policy : EffectivePolicy}

theorem toPolicy_eq_ok_iff :
    settings.toPolicy = .ok policy ↔
      settings.wallet.toAllowlist = .ok policy.allowlist ∧
        settings.wallet.toAddress = .ok policy.wallet ∧
        settings.policy.toProfile = .ok policy.profile ∧
        addressOfSetting "wallet.entry_point" settings.wallet.entryPoint = .ok policy.entryPoint ∧
        settings.approval.toLimits = policy.limits ∧
        settings.wallet.homeChainId = policy.homeChainId ∧
        settings.wallet.frozen = policy.frozen ∧
        settings.quote.timeoutMillis = policy.quoteTimeout := by
  unfold toPolicy
  simp only [bind_eq_ok_iff, Except.ok.injEq]
  constructor
  · rintro ⟨allowlist, isAllowlist, wallet, isWallet, profile, isProfile, entryPoint, isEntryPoint,
      rfl⟩
    exact ⟨isAllowlist, isWallet, isProfile, isEntryPoint, rfl, rfl, rfl, rfl⟩
  · obtain ⟨profile, limits, allowlist, wallet, homeChainId, entryPoint, frozen, quoteTimeout⟩ :=
      policy
    rintro ⟨isAllowlist, isWallet, isProfile, isEntryPoint, rfl, rfl, rfl, rfl⟩
    exact ⟨allowlist, isAllowlist, wallet, isWallet, profile, isProfile, entryPoint, isEntryPoint,
      rfl⟩

theorem toPolicy_eq_of_readable (readable : settings.wallet.Readable) :
    ∃ make : Profile → EffectivePolicy, settings.toPolicy = make <$> settings.policy.toProfile := by
  obtain ⟨allowlist, isAllowlist⟩ := readable.toAllowlist
  obtain ⟨wallet, isWallet⟩ := readable.toAddress
  obtain ⟨entryPoint, parsed⟩ := readable.entryPoint
  have isEntryPoint : addressOfSetting "wallet.entry_point" settings.wallet.entryPoint =
      .ok entryPoint := addressOfSetting_eq_ok_iff.2 parsed
  refine ⟨fun profile => {
    profile, allowlist, wallet, entryPoint
    limits := settings.approval.toLimits
    homeChainId := settings.wallet.homeChainId
    frozen := settings.wallet.frozen
    quoteTimeout := settings.quote.timeoutMillis }, ?_⟩
  unfold toPolicy
  rw [isAllowlist, isWallet, isEntryPoint]
  cases settings.policy.toProfile <;> rfl

theorem enforces_of_toPolicy (made : settings.toPolicy = .ok policy)
    (sound : policy.profile.Sound) (capsInOrder : policy.profile.CapsInOrder) :
    policy.Enforces settings := by
  obtain ⟨allowlist, wallet, -, -, -, homeChain, frozen, quoteTimeout⟩ := toPolicy_eq_ok_iff.1 made
  have listed : ∀ address, policy.posture.allows address = true ↔
      ∃ written ∈ settings.wallet.allowlist, Address.parse written = .ok address := by
    intro address
    have added : policy.posture.allows address = true ↔
        (Posture.ofProfile policy.profile).allows address = true ∨ address ∈ policy.allowlist :=
      Posture.allows_allowAll_iff
    rw [added, WalletSettings.mem_of_toAllowlist allowlist]
    simp [Posture.ofProfile, Posture.allows]
  constructor
  case sound => exact sound
  case capsInOrder => exact capsInOrder
  case profile => exact Posture.allowAll_profile
  case frozen => exact frozen.symm
  case allowlist => exact listed
  case spelling =>
    intro address
    simp only [listed, Address.parse_eq_ok_iff]
  case wallet => exact WalletSettings.toAddress_eq_ok_iff.1 wallet
  case homeChain => exact congrArg some homeChain.symm
  case quoteTimeout => exact quoteTimeout.symm

/-- Valid settings become a policy that enforces them, or there is a cap of one transaction over the
cap of a day once the overrides are in place. -/
theorem toPolicy_of_valid (valid : settings.fault? = none) :
    ∃ base, Profile.ofName settings.policy.profile = .ok base ∧
      let profile := base.withOverrides settings.policy.overrides
      (∀ cause, settings.toPolicy = .error cause → profile.CapError cause) ∧
      ((∃ policy, settings.toPolicy = .ok policy) ↔ profile.CapsInOrder) ∧
      ∀ policy, settings.toPolicy = .ok policy →
        policy.profile = profile ∧ policy.Enforces settings := by
  have noFaults : settings.faults = [] := List.head?_eq_none_iff.1 valid
  simp only [faults, PolicySettings.faults, List.append_eq_nil_iff, faultIf_eq_nil_iff,
    Bool.not_eq_false'] at noFaults
  obtain ⟨⟨⟨⟨⟨known, overrides⟩, wallet⟩, -⟩, -⟩, -⟩ := noFaults
  obtain ⟨base, named⟩ := Profile.exists_ofName_iff.2 known
  have sound := (Profile.sound_of_ofName named).withOverrides
    (ProfileOverrides.faultless_of_faults overrides)
  obtain ⟨make, made⟩ := toPolicy_eq_of_readable (WalletSettings.readable_of_faults wallet)
  refine ⟨base, named, ?_⟩
  intro profile
  rcases PolicySettings.toProfile_cases named with ⟨isProfile, inOrder⟩ | ⟨cause, failed, error⟩
  · have succeeds : settings.toPolicy = .ok (make profile) := by rw [made, isProfile]; rfl
    refine ⟨?_, ⟨fun _ => inOrder, fun _ => ⟨_, succeeds⟩⟩, ?_⟩
    · intro cause failed
      rw [succeeds] at failed
      cases failed
    · intro policy isPolicy
      have sameProfile : policy.profile = profile := by
        have read := (toPolicy_eq_ok_iff.1 isPolicy).2.2.1
        rw [isProfile] at read
        exact (Except.ok.inj read).symm
      refine ⟨sameProfile, ?_⟩
      exact enforces_of_toPolicy isPolicy (sameProfile ▸ sound) (sameProfile ▸ inOrder)
  · have fails : settings.toPolicy = .error cause := by rw [made, failed]; rfl
    refine ⟨?_, ⟨?_, fun inOrder => absurd inOrder error.not_capsInOrder⟩, ?_⟩
    · intro other failed
      rw [fails] at failed
      cases failed
      exact error
    · rintro ⟨policy, isPolicy⟩
      rw [fails] at isPolicy
      cases isPolicy
    · intro policy isPolicy
      rw [fails] at isPolicy
      cases isPolicy

def handWritten : Settings where
  policy := {
    profile := "autonomous"
    overrides := { perTxNativeCap := some 7, dailyNativeCap := some 7, maxSlippageBps := some 10000 } }
  wallet := {
    address := some "4337084D9E255Ff0702461CF8895CE9E3b5Ff108"
    frozen := true
    allowlist := [" 0X00000000000000000000000000000000000aBc01\n"] }

theorem toPolicy_handWritten :
    handWritten.fault? = none ∧ ∃ policy, handWritten.toPolicy = .ok policy ∧
      policy.posture.frozen = true ∧ policy.posture.allows (.ofNat 0xabc01) = true := by
  have valid : handWritten.fault? = none := by decide +kernel
  obtain ⟨base, named, -, succeeds, enforced⟩ := toPolicy_of_valid valid
  rcases Profile.ofName_eq_ok_iff.1 named with ⟨other, -⟩ | ⟨-, rfl⟩
  · exact absurd other (by decide)
  obtain ⟨policy, made⟩ := succeeds.2 (by constructor <;> decide)
  have enforces := (enforced policy made).2
  refine ⟨valid, policy, made, enforces.frozen, (enforces.allowlist _).2 ?_⟩
  exact ⟨_, List.mem_singleton_self _, Address.parse_eq_ok_iff.2 (by decide +kernel)⟩

end Settings

end WalletPolicy

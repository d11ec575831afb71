import WalletPolicy.Proofs.Guard.Linearization
import WalletPolicy.Proofs.Spending.Ledger

/-!
# Wider permissions allow more

Each gate of the evaluation gets its own lemma. The guard that is widened has to be as patient with
its quotes, because a quote that comes too late allows nothing.
-/

namespace WalletPolicy

structure Profile.WidenedTo (profile wide : Profile) : Prop where
  perTxNative : profile.perTxNativeCap ≤ wide.perTxNativeCap
  dailyNative : profile.dailyNativeCap ≤ wide.dailyNativeCap
  perTxStablecoin : profile.perTxStablecoinCap ≤ wide.perTxStablecoinCap
  dailyStablecoin : profile.dailyStablecoinCap ≤ wide.dailyStablecoinCap
  hourlyRate : profile.maxTxPerHour ≤ wide.maxTxPerHour
  slippage : profile.maxSlippageBps ≤ wide.maxSlippageBps
  cooldown : wide.minCooldownSecs ≤ profile.minCooldownSecs

structure Posture.WidenedTo (posture wide : Posture) : Prop where
  thawed : wide.frozen = false
  allowlist : posture.allowlist ⊆ wide.allowlist
  profile : posture.profile.WidenedTo wide.profile

/-- Two guards for the same chain and quotes, of which the second knows its wallet if the first
does. -/
structure Guard.WidenedTo (guard wide : Guard) : Prop where
  registries : wide.registries = guard.registries
  quoteSource : wide.quoteSource = guard.quoteSource
  homeChain : wide.homeChain = guard.homeChain
  wallet : guard.wallet = none ∨ wide.wallet = guard.wallet

variable {guard wide : Guard} {posture loose : Posture} {profile loosened : Profile}
  {tracker : Tracker} {now : Instant} {native stablecoin : UInt64} {intent : Intent}

/-! ## The gates -/

namespace Tracker

theorem cooldownMillis_le (widened : profile.WidenedTo loosened) :
    cooldownMillis loosened ≤ cooldownMillis profile := by
  have shorter := UInt64.le_iff_toNat_le.1 widened.cooldown
  unfold cooldownMillis secondMillis
  omega

theorem judge_eq_allowed_of_widened (widened : profile.WidenedTo loosened)
    (allowed : tracker.judge now native stablecoin profile = .allowed) :
    tracker.judge now native stablecoin loosened = .allowed := by
  rw [judge_eq_allowed_iff] at allowed ⊢
  obtain ⟨perTxNative, perTxStablecoin, dailyNative, dailyStablecoin, hourlyRate, cooldown⟩ :=
    allowed
  refine ⟨?perTxNative, ?perTxStablecoin, ?dailyNative, ?dailyStablecoin, ?hourlyRate, ?cooldown⟩
  case perTxNative => exact UInt64.le_trans perTxNative widened.perTxNative
  case perTxStablecoin => exact UInt64.le_trans perTxStablecoin widened.perTxStablecoin
  case dailyNative => exact UInt64.le_trans dailyNative widened.dailyNative
  case dailyStablecoin => exact UInt64.le_trans dailyStablecoin widened.dailyStablecoin
  case hourlyRate =>
    exact Nat.lt_of_lt_of_le hourlyRate (UInt32.le_iff_toNat_le.1 widened.hourlyRate)
  case cooldown =>
    intro last isLast
    exact Int.le_trans (cooldownMillis_le widened) (cooldown last isLast)

end Tracker

theorem Posture.WidenedTo.allows (widened : posture.WidenedTo loose) {address : Address}
    (allowed : posture.allows address = true) : loose.allows address = true := by
  rw [Posture.allows, List.contains_iff_mem] at allowed ⊢
  exact widened.allowlist allowed

theorem Swap.Acceptable.of_widened {swap : Swap} (widened : guard.WidenedTo wide)
    (acceptable : swap.Acceptable guard.wallet) : swap.Acceptable wide.wallet := by
  refine { acceptable with recipient := ?_ }
  rcases acceptable.recipient with isSender | isWallet
  · exact .inl isSender
  · rcases widened.wallet with unset | same
    · rw [unset] at isWallet
      cases isWallet
    · exact .inr (same.trans isWallet)

namespace Guard

theorem Affordable.of_widened (widened : posture.WidenedTo loose)
    (affordable : Affordable posture tracker now native stablecoin) :
    Affordable loose tracker now native stablecoin :=
  Tracker.judge_eq_allowed_of_widened widened.profile affordable

theorem Quotes.of_patient {request : QuoteRequest} {quote : UInt64}
    (same : wide.quoteSource = guard.quoteSource) (patient : guard.quoteTimeout ≤ wide.quoteTimeout)
    (quotes : guard.Quotes request quote) : wide.Quotes request quote := by
  obtain ⟨source, isSource, inTime, answered, positive⟩ := quotes
  refine ⟨source, same.trans isSource, ?_, answered, positive⟩
  exact Nat.le_trans inTime (UInt64.le_iff_toNat_le.1 patient)

theorem WidenedTo.quoteRequest (widened : guard.WidenedTo wide) (swap : Swap) :
    wide.quoteRequest intent swap = guard.quoteRequest intent swap := by
  simp only [Guard.quoteRequest, widened.homeChain]

theorem WidenedTo.stablecoinInput (widened : guard.WidenedTo wide) (swap : Swap) :
    wide.stablecoinInput intent swap = guard.stablecoinInput intent swap := by
  simp only [Guard.stablecoinInput, widened.registries]

theorem Permits.of_widened {action : Action} (widenedGuard : guard.WidenedTo wide)
    (patient : guard.quoteTimeout ≤ wide.quoteTimeout) (widened : posture.WidenedTo loose)
    (permits : guard.Permits posture tracker now intent action) :
    wide.Permits loose tracker now intent action := by
  cases action with
  | transfer =>
      obtain ⟨affordable, granted⟩ := permits
      exact ⟨affordable.of_widened widened, granted.imp_left widened.allows⟩
  | tokenTransfer token recipient amount =>
      obtain ⟨affordable, granted⟩ := permits
      exact ⟨affordable.of_widened widened, granted.imp_left widened.allows⟩
  | swap details =>
      obtain ⟨acceptable, quote, quotes, within, affordable⟩ := permits
      refine ⟨acceptable.of_widened widenedGuard, quote, ?_, ?_, ?_⟩
      · rw [widenedGuard.quoteRequest]
        exact quotes.of_patient widenedGuard.quoteSource patient
      · exact UInt32.le_trans within widened.profile.slippage
      · rw [widenedGuard.stablecoinInput]
        exact affordable.of_widened widened
  | protocolCall method => exact Affordable.of_widened widened permits
  | unknown => exact permits

/-! ## The decision -/

/-- Whatever a guard allows is allowed under wider permissions too, if quotes may take as long. -/
theorem evaluate_eq_allow_of_widened (widenedGuard : guard.WidenedTo wide)
    (patient : guard.quoteTimeout ≤ wide.quoteTimeout) (widened : posture.WidenedTo loose)
    (allowed : (guard.evaluate posture tracker now intent).2 = .allow) :
    (wide.evaluate loose tracker now intent).2 = .allow := by
  rw [evaluate_eq_allow_iff_of_decode] at allowed ⊢
  obtain ⟨-, unblocked, known, permits⟩ := allowed
  rw [widenedGuard.registries]
  exact ⟨widened.thawed, unblocked, known, permits.of_widened widenedGuard patient widened⟩

def punctualGuard : Guard := { Session.quoted.guard with quoteTimeout := 4000 }

def hastyGuard : Guard := { punctualGuard with quoteTimeout := 3999 }

def relaxedGuard : Guard := { punctualGuard with quoteTimeout := 5000, wallet := some default }

def relaxedPosture : Posture where
  profile := { Profile.autonomous with minCooldownSecs := 0 }
  allowlist := [ProtocolTable.router]
  frozen := false

theorem widenedTo_relaxedPosture : (Posture.ofProfile .balanced).WidenedTo relaxedPosture where
  thawed := rfl
  allowlist := List.nil_subset _
  profile := by constructor <;> decide

theorem widenedTo_relaxedGuard : punctualGuard.WidenedTo relaxedGuard := ⟨rfl, rfl, rfl, .inl rfl⟩

theorem evaluate_cheapSwap_relaxedGuard :
    (punctualGuard.evaluate (.ofProfile .balanced) (.start .epoch) .epoch
        Session.cheapSwap.intent).2 = .allow ∧
      (relaxedGuard.evaluate relaxedPosture (.start .epoch) .epoch
        Session.cheapSwap.intent).2 = .allow := by
  have allowed : (punctualGuard.evaluate (.ofProfile .balanced) (.start .epoch) .epoch
      Session.cheapSwap.intent).2 = .allow := by decide +kernel
  have patient : punctualGuard.quoteTimeout ≤ relaxedGuard.quoteTimeout := by decide
  exact ⟨allowed, evaluate_eq_allow_of_widened widenedTo_relaxedGuard patient
    widenedTo_relaxedPosture allowed⟩

/-- Without the same patience wider permissions may allow less. -/
theorem hastyGuard_asks :
    punctualGuard.WidenedTo hastyGuard ∧
      (Posture.ofProfile .balanced).WidenedTo (.ofProfile .balanced) ∧
      (punctualGuard.evaluate (.ofProfile .balanced) (.start .epoch) .epoch
        Session.cheapSwap.intent).2 = .allow ∧
      (hastyGuard.evaluate (.ofProfile .balanced) (.start .epoch) .epoch
        Session.cheapSwap.intent).2 ≠ .allow := by
  refine ⟨⟨rfl, rfl, rfl, .inr rfl⟩, ⟨rfl, List.Subset.refl _, ?_⟩, ?_, ?_⟩
  · constructor <;> decide
  · decide +kernel
  · decide +kernel

end Guard

end WalletPolicy

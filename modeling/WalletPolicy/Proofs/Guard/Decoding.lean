import WalletPolicy.Action

namespace WalletPolicy

/-! ## Calls that start with a selector -/

theorem FixedBytes.ofBytes?_take_eq_some_iff {size : Nat} {data : Bytes} {value : FixedBytes size} :
    FixedBytes.ofBytes? (data.take size) = some value ↔ value.toBytes <+: data := by
  rw [FixedBytes.ofBytes?_eq_some_iff]
  constructor
  · intro h
    rw [← h]
    exact List.take_prefix size data
  · intro h
    have := List.prefix_iff_eq_take.1 h
    rw [value.length_eq] at this
    exact this.symm

namespace Selector

theorem ofCalldata?_eq_some_iff {calldata : Bytes} {selector : Selector} :
    ofCalldata? calldata = some selector ↔ selector.toBytes <+: calldata := by
  rw [ofCalldata?, ofBytes?_eq_some_iff, toBytes, ← FixedBytes.ofBytes?_eq_some_iff,
    FixedBytes.ofBytes?_take_eq_some_iff]

@[simp] theorem ofCalldata?_nil : ofCalldata? [] = none := rfl

end Selector

theorem BlockedSelector.ofCalldata?_eq_none_iff {calldata : Bytes} :
    BlockedSelector.ofCalldata? calldata = none ↔
      ∀ blocked ∈ BlockedSelector.all, ¬ blocked.selector.toBytes <+: calldata := by
  simp only [BlockedSelector.ofCalldata?, Option.bind_eq_none_iff, BlockedSelector.find?,
    List.find?_eq_none, beq_iff_eq, Selector.ofCalldata?_eq_some_iff]
  constructor
  · intro h blocked member starts
    exact h _ starts blocked member rfl
  · rintro h selector starts blocked member rfl
    exact h blocked member starts

/-! ## The meaning of a call -/

namespace Intent

def Means (registries : Registries) (intent : Intent) : Action → Prop
  | .transfer => intent.calldata = []
  | .tokenTransfer token recipient amount =>
    intent.selector? = some .tokenTransfer ∧ tokenTransferLength ≤ intent.calldata.length ∧
      Abi.readAddress intent.calldata 4 = some recipient ∧
      Abi.readUInt64 intent.calldata 36 = some amount ∧
      token = intent.target ∧ registries.isStablecoin intent.chainId token = true
  | .swap details =>
    intent.selector? = some .routerExecute ∧
      (registries.method? intent.chainId intent.target .routerExecute).isSome = true ∧
      Swap.ofCalldata? intent.calldata = some details
  | .protocolCall method =>
    ∃ selector, intent.selector? = some selector ∧ selector ≠ .routerExecute ∧
      ¬ (selector = .tokenTransfer ∧ tokenTransferLength ≤ intent.calldata.length) ∧
      registries.method? intent.chainId intent.target selector = some method
  | .unknown => False

variable {intent : Intent} {registries : Registries} {action : Action}

theorem calldata_ne_nil {selector : Selector} (h : intent.selector? = some selector) :
    intent.calldata ≠ [] := by
  intro empty
  simp [selector?, empty] at h

theorem not_means_tokenTransfer {selector : Selector} {token recipient : Address}
    {amount : UInt64} (start : intent.selector? = some selector)
    (short : ¬ (selector = .tokenTransfer ∧ tokenTransferLength ≤ intent.calldata.length)) :
    ¬ intent.Means registries (.tokenTransfer token recipient amount) := by
  rintro ⟨isTransfer, long, -⟩
  exact short ⟨Option.some.inj (start.symm.trans isTransfer), long⟩

theorem not_means_swap {selector : Selector} {details : Swap}
    (start : intent.selector? = some selector) (other : selector ≠ .routerExecute) :
    ¬ intent.Means registries (.swap details) := by
  rintro ⟨isExecute, -⟩
  exact other (Option.some.inj (start.symm.trans isExecute))

theorem known_decodeTokenTransfer_iff (start : intent.selector? = some .tokenTransfer)
    (long : tokenTransferLength ≤ intent.calldata.length) :
    (intent.decodeTokenTransfer registries).isKnown = true ∧
      (intent.decodeTokenTransfer registries).action = action ↔ intent.Means registries action := by
  have nonempty := calldata_ne_nil start
  have notSwap : ∀ details, ¬ intent.Means registries (.swap details) :=
    fun _ => not_means_swap start (by decide)
  unfold decodeTokenTransfer
  dsimp only
  split
  · rename_i recipient amount readRecipient readAmount
    -- Both words are clean, so only the registry of stablecoins is left to ask.
    split
    · rename_i registered
      cases action with
      | swap details => simpa using notSwap details
      | tokenTransfer token recipient' amount' =>
          simp only [Means, start, long, readRecipient, readAmount, Option.some.injEq, true_and,
            Action.tokenTransfer.injEq]
          constructor
          · rintro ⟨rfl, rfl, rfl⟩
            exact ⟨rfl, rfl, rfl, registered⟩
          · rintro ⟨rfl, rfl, rfl, -⟩
            exact ⟨rfl, rfl, rfl⟩
      | _ => simp_all [Means]
    · rename_i unregistered
      cases action <;> simp_all [Means]
  · cases action <;> simp_all [Means]

theorem known_decodeMethod_iff {selector : Selector} {method : ProtocolMethod}
    (start : intent.selector? = some selector)
    (short : ¬ (selector = .tokenTransfer ∧ tokenTransferLength ≤ intent.calldata.length))
    (listed : registries.method? intent.chainId intent.target selector = some method) :
    (intent.decodeMethod selector method).isKnown = true ∧
      (intent.decodeMethod selector method).action = action ↔ intent.Means registries action := by
  have nonempty := calldata_ne_nil start
  unfold decodeMethod
  split
  · rename_i router
    subst router
    cases action with
    | tokenTransfer => split <;> simpa using not_means_tokenTransfer start short
    | _ => split <;> simp_all [Means]
  · rename_i other
    cases action with
    | tokenTransfer => simpa using not_means_tokenTransfer start short
    | swap => simpa using not_means_swap start other
    | protocolCall => simpa [Means, start, other, listed] using fun _ => not_and.1 short
    | _ => simp_all [Means]

theorem known_decode_iff :
    (intent.decode registries).isKnown = true ∧ (intent.decode registries).action = action ↔
      intent.Means registries action := by
  unfold decode
  split
  · rename_i empty
    have empty := List.isEmpty_iff.1 empty
    cases action <;> simp_all [Means, selector?]
  · rename_i nonempty
    split
    · cases action <;> simp_all [Means]
    · rename_i selector start
      split
      · rename_i transfer
        obtain ⟨rfl, long⟩ := transfer
        exact known_decodeTokenTransfer_iff start long
      · rename_i short
        split
        · rename_i method listed
          exact known_decodeMethod_iff start short listed
        · rename_i unlisted
          cases action with
          | tokenTransfer => simpa using not_means_tokenTransfer start short
          | swap =>
              simp only [Bool.false_eq_true, false_and, false_iff]
              rintro ⟨isExecute, isListed, -⟩
              rw [Option.some.inj (start.symm.trans isExecute)] at unlisted
              simp [unlisted] at isListed
          | _ => simp_all [Means]

theorem Means.unique {other : Action} (one : intent.Means registries action)
    (two : intent.Means registries other) : action = other :=
  (known_decode_iff.2 one).2.symm.trans (known_decode_iff.2 two).2

end Intent

end WalletPolicy

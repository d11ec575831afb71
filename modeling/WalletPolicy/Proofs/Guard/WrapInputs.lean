import WalletPolicy.Proofs.Guard.Authorization
import WalletPolicy.Proofs.Swap.Calls

/-!
# Where wrapped assets go

A swap that is paid with the native asset wraps it first, and the input of the wrap command says who
gets it. Only the input of the swap command is ever read, so a wrap may pay a stranger.
-/

namespace WalletPolicy

namespace Swap

def WrapsStay (wallet : Option Address) (calldata : Bytes) : Prop :=
  ∀ commands inputs, commandsAndInputs? (calldata.drop 4) = some (commands, inputs) →
    ∀ place : Nat, commands[place]? = some wrapCommand →
      ∃ input recipient, inputs[place]? = some input ∧
        (Abi.Word.ofAddress recipient).toBytes <+: input ∧
        (recipient = routerMarker ∨ recipient = senderMarker ∨ wallet = some recipient)

variable {wallet : Option Address} {calldata : Bytes} {swap : Swap}

theorem wrapsStay_of_not_mem (read : ofCalldata? calldata = some swap)
    (unwrapped : wrapCommand ∉ swap.commands) : WrapsStay wallet calldata := by
  intro commands inputs arguments place wraps
  obtain ⟨-, commands', inputs', -, input, arguments', -, -, -, made⟩ :=
    ofCalldata?_eq_some_iff.1 read
  obtain ⟨rfl, rfl⟩ := Prod.mk.inj (Option.some.inj (arguments.symm.trans arguments'))
  rw [commands_of_ofInput? made] at unwrapped
  exact absurd (List.mem_of_getElem? wraps) unwrapped

/-! ## A call that pays a stranger -/

def stranger (wallet : Option Address) : Address :=
  if wallet = some (.ofNat 3) then .ofNat 4 else .ofNat 3

def diverted (wallet : Option Address) (swap : Swap) : Bytes :=
  Calldata.execute [wrapCommand, swapCommand]
    [Calldata.wrapInput (stranger wallet) swap.amountIn,
      Calldata.swapInput swap.recipient swap.amountIn swap.amountOutMin
        (Route.writePath [swap.tokenIn, swap.tokenOut] [swap.fee]) swap.payerIsUser]
    Calldata.noDeadline

theorem length_path : (Route.writePath [swap.tokenIn, swap.tokenOut] [swap.fee]).length = 43 :=
  Route.length_writePath _ _

theorem length_diverted : (diverted wallet swap).length < UInt64.size := by
  rw [diverted, Calldata.wrapInput, Calldata.swapInput, length_execute, Abi.length_writeBytesList]
  simp only [List.flatMap_cons, List.flatMap_nil, List.length_append, List.length_cons,
    List.length_nil, Abi.length_writeBytes, Abi.length_lengthWord, FixedBytes.length_toBytes,
    length_path]
  decide

theorem ofCalldata?_diverted (small : swap.fee.toNat < 2 ^ 24) (singleHop : swap.isMultiHop = false) :
    ofCalldata? (diverted wallet swap) =
      some { swap with commands := [wrapCommand, swapCommand] } := by
  refine ofCalldata?_eq_some_iff.2 ⟨selector_execute, _, _, 1, _,
    commandsAndInputs?_execute length_diverted, rfl, rfl, rfl, ?_⟩
  rw [ofInput?_swapInput (Route.ofPath?_writePath rfl rfl rfl rfl small)
    (by rw [length_path]; decide)]
  simp [singleHop]

theorem stranger_ne : stranger wallet ≠ routerMarker ∧ stranger wallet ≠ senderMarker ∧
    wallet ≠ some (stranger wallet) := by
  unfold stranger
  split
  · rename_i isWallet
    rw [isWallet]
    decide
  · rename_i other
    exact ⟨by decide, by decide, other⟩

theorem not_wrapsStay_execute {recipient : Address} {amount deadline : UInt64} {commands : Bytes}
    {inputs : List Bytes}
    (fits : (Calldata.execute (wrapCommand :: commands)
      (Calldata.wrapInput recipient amount :: inputs) deadline).length < UInt64.size)
    (strange : recipient ≠ routerMarker ∧ recipient ≠ senderMarker ∧ wallet ≠ some recipient) :
    ¬ WrapsStay wallet (Calldata.execute (wrapCommand :: commands)
      (Calldata.wrapInput recipient amount :: inputs) deadline) := by
  intro stays
  obtain ⟨input, paid, isInput, starts, accepted⟩ :=
    stays _ _ (commandsAndInputs?_execute fits) 0 rfl
  obtain rfl := Option.some.inj isInput
  have readPaid : Abi.readAddress (Calldata.wrapInput recipient amount) 0 = some paid :=
    Abi.readAddress_eq_some_iff.2 ⟨by decide, starts⟩
  have readRecipient : Abi.readAddress (Calldata.wrapInput recipient amount) 0 = some recipient :=
    Abi.readAddress_eq_some_iff.2 ⟨by decide, List.prefix_append _ _⟩
  obtain rfl := Option.some.inj (readPaid.symm.trans readRecipient)
  obtain ⟨notRouter, notSender, notWallet⟩ := strange
  rcases accepted with router | sender | account
  · exact notRouter router
  · exact notSender sender
  · exact notWallet account

theorem not_wrapsStay_diverted : ¬ WrapsStay wallet (diverted wallet swap) :=
  not_wrapsStay_execute length_diverted stranger_ne

end Swap

namespace Guard

variable {guard : Guard} {posture : Posture} {tracker : Tracker} {now : Instant} {intent : Intent}

def SignsSwap (guard : Guard) (posture : Posture) (tracker : Tracker) (now : Instant)
    (intent : Intent) (swap : Swap) : Prop :=
  (guard.evaluate posture tracker now intent).2 = .allow ∧
    (intent.decode guard.registries).action = .swap swap

theorem signsSwap_iff {swap : Swap} :
    guard.SignsSwap posture tracker now intent swap ↔
      posture.frozen = false ∧ intent.Means guard.registries (.swap swap) ∧
        guard.Permits posture tracker now intent (.swap swap) := by
  rw [SignsSwap, evaluate_eq_allow_iff_of_decode, ← Intent.known_decode_iff]
  constructor
  · rintro ⟨⟨thawed, -, known, permitted⟩, isSwap⟩
    exact ⟨thawed, ⟨known, isSwap⟩, isSwap ▸ permitted⟩
  · rintro ⟨thawed, ⟨known, isSwap⟩, permitted⟩
    have router := (Intent.known_decode_iff.1 ⟨known, isSwap⟩).1
    have notBlocked : BlockedSelector.ofCalldata? intent.calldata = none := by
      rw [BlockedSelector.ofCalldata?, show Selector.ofCalldata? intent.calldata = _ from router]
      decide
    exact ⟨⟨thawed, notBlocked, known, isSwap.symm ▸ permitted⟩, isSwap⟩

theorem signsSwap_diverted {swap : Swap} (signs : guard.SignsSwap posture tracker now intent swap)
    (wraps : wrapCommand ∈ swap.commands) :
    guard.SignsSwap posture tracker now
      { intent with calldata := Swap.diverted guard.wallet swap }
      { swap with commands := [wrapCommand, swapCommand] } := by
  obtain ⟨thawed, ⟨-, listed, read⟩, acceptable, quoted⟩ := signsSwap_iff.1 signs
  refine signsSwap_iff.2 ⟨thawed, ⟨Swap.selector_execute, listed, ?_⟩, ?_, quoted⟩
  · obtain ⟨-, _, _, _, _, -, -, -, -, made⟩ := Swap.ofCalldata?_eq_some_iff.1 read
    exact Swap.ofCalldata?_diverted (Swap.fee_lt_of_ofInput? made) acceptable.singleHop
  · exact {
      recipient := acceptable.recipient
      commands := by simp
      payer := by simpa [wraps] using acceptable.payer
      singleHop := acceptable.singleHop }

/-- Signed swaps keep what they wrap, whatever their inputs are, exactly when none of them wraps
anything. -/
theorem wrapsStay_iff (guard : Guard) (posture : Posture) (tracker : Tracker) (now : Instant)
    (intent : Intent) :
    (∀ calldata swap, guard.SignsSwap posture tracker now { intent with calldata } swap →
      Swap.WrapsStay guard.wallet calldata) ↔
    (∀ calldata swap, guard.SignsSwap posture tracker now { intent with calldata } swap →
      wrapCommand ∉ swap.commands) := by
  constructor
  · intro stays calldata swap signs wraps
    have moved := signsSwap_diverted signs wraps
    exact Swap.not_wrapsStay_diverted (stays _ _ moved)
  · intro unwrapped calldata swap signs
    exact Swap.wrapsStay_of_not_mem (signsSwap_iff.1 signs).2.1.2.2 (unwrapped calldata swap signs)

/-! ## One such call -/

def quotedGuard : Guard :=
  { ofProfile .balanced with
    quoteSource := some ⟨fun _ => .ok 1000000, fun _ => 0⟩
    wallet := some (.ofNat 0x1111111111111111111111111111111111111111) }

def divertedCall : Intent where
  chainId := 8453
  wallet := .ofNat 0x1111111111111111111111111111111111111111
  target := .ofNat 0x3fc91a3afd70395cd496c647d5a6cc9d4b2b7fad
  value := 10000000000000000
  calldata := Calldata.execute [wrapCommand, swapCommand]
    [Calldata.wrapInput (.ofNat 0x9999999999999999999999999999999999999999) 10000000000000000,
      Calldata.swapInput senderMarker 10000000000000000 995000
        (Route.writePath [.ofNat 0x4200000000000000000000000000000000000006,
          .ofNat 0x833589fcd6edb6e08f4c7c32d4f71b54bda02913] [500]) false]
    Calldata.noDeadline

theorem divertedCall_signed : (∃ swap, quotedGuard.SignsSwap (.ofProfile .balanced) (.start .epoch)
      .epoch divertedCall swap) ∧
    ¬ Swap.WrapsStay quotedGuard.wallet divertedCall.calldata := by
  let terms : Swap := {
    tokenIn := .ofNat 0x4200000000000000000000000000000000000006
    tokenOut := .ofNat 0x833589fcd6edb6e08f4c7c32d4f71b54bda02913
    amountIn := 10000000000000000
    amountOutMin := 995000
    fee := 500
    recipient := senderMarker
    commands := [wrapCommand, swapCommand]
    payerIsUser := false
    isMultiHop := false }
  exact ⟨⟨terms, by decide +kernel, by decide +kernel⟩,
    Swap.not_wrapsStay_execute (by decide +kernel) (by decide +kernel)⟩

end Guard

end WalletPolicy

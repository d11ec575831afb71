import WalletPolicy.UserOperation
import WalletPolicy.Proofs.Abi.Commitment

/-!
# What the digest to sign is bound to

The digest is taken in three layers: over the envelope, over the domain and the operation, and over
the byte strings of the operation. Where the binding breaks, two texts of one layer collide.
-/

namespace WalletPolicy.UserOperation

open Abi

variable {one two : UserOperation} {here there : Address} {first second : UInt64}

/-- Two texts that go by the same digest, among all that are hashed for two operations at two
places. -/
inductive SigningCollision (one two : UserOperation) (here there : Address)
    (first second : UInt64) : Prop
  | initCode (collision : Collision .of one.initCode two.initCode)
  | callData (collision : Collision .of one.callData two.callData)
  | paymasterAndData (collision : Collision .of one.paymasterAndData two.paymasterAndData)
  | operation (collision : Collision .of (pack one.items) (pack two.items))
  | domain
      (collision : Collision .of (pack (domainItems first here)) (pack (domainItems second there)))
  | envelope
      (collision : Collision .of (pack (one.envelope here first)) (pack (two.envelope there second)))

/-! ## The layers -/

theorem committed_eq_or_collision_of_digest {left right : List Item}
    (kinds : List.Forall₂ Item.SameKind left right) (same : Abi.digest left = Abi.digest right) :
    left.map (Item.committed .of) = right.map (Item.committed .of) ∨
      Collision .of (pack left) (pack right) := by
  rw [← packBy_of left, ← packBy_of right]
  apply committed_eq_or_collision kinds
  rw [packBy_of, packBy_of]
  exact same

theorem sameKinds_envelope :
    List.Forall₂ Item.SameKind (one.envelope here first) (two.envelope there second) :=
  .cons (.raw rfl) <| .cons .digest <| .cons .digest .nil

theorem sameKinds_domainItems :
    List.Forall₂ Item.SameKind (domainItems first here) (domainItems second there) :=
  .cons .digest <| .cons .hashed <| .cons .hashed <| .cons .uint64 <| .cons .address .nil

theorem sameKinds_items : List.Forall₂ Item.SameKind one.items two.items :=
  .cons .digest <| .cons .address <| .cons .word <| .cons .hashed <| .cons .hashed <| .cons .word <|
    .cons .word <| .cons .word <| .cons .hashed .nil

theorem digests_eq_or_collision
    (same : one.signingDigest here first = two.signingDigest there second) :
    (domainDigest first here = domainDigest second there ∧ one.structDigest = two.structDigest) ∨
      SigningCollision one two here there first second := by
  refine (committed_eq_or_collision_of_digest sameKinds_envelope same).imp (fun committed => ?_)
    .envelope
  simpa [envelope, Item.committed] using committed

theorem place_eq_or_collision (same : domainDigest first here = domainDigest second there) :
    (here = there ∧ first = second) ∨ SigningCollision one two here there first second := by
  refine (committed_eq_or_collision_of_digest sameKinds_domainItems same).imp (fun committed => ?_)
    .domain
  simp only [domainItems, List.map_cons, Item.committed, List.map_nil, List.cons.injEq, true_and,
    and_true, Item.uint64.injEq, Item.address.injEq] at committed
  exact committed.symm

theorem eq_or_collision_of_committed
    (same : one.items.map (Item.committed .of) = two.items.map (Item.committed .of)) :
    one = two ∨ SigningCollision one two here there first second := by
  cases one
  cases two
  simp only [items, List.map_cons, Item.committed, List.map_nil, List.cons.injEq, true_and,
    and_true, Item.address.injEq, Item.word.injEq, Item.digest.injEq] at same
  obtain ⟨rfl, rfl, initCode, callData, rfl, rfl, rfl, paymaster⟩ := same
  rcases eq_or_collision initCode with rfl | collision
  · rcases eq_or_collision callData with rfl | collision
    · exact (eq_or_collision paymaster).imp (fun equal => by rw [equal]) .paymasterAndData
    · exact .inr (.callData collision)
  · exact .inr (.initCode collision)

theorem eq_or_collision_of_structDigest (same : one.structDigest = two.structDigest) :
    one = two ∨ SigningCollision one two here there first second := by
  rcases committed_eq_or_collision_of_digest sameKinds_items same with committed | collision
  · exact eq_or_collision_of_committed committed
  · exact .inr (.operation collision)

theorem eq_or_collision_of_signingDigest
    (same : one.signingDigest here first = two.signingDigest there second) :
    (one = two ∧ here = there ∧ first = second) ∨
      SigningCollision one two here there first second := by
  rcases digests_eq_or_collision same with ⟨domains, operations⟩ | collision
  · rcases eq_or_collision_of_structDigest operations with equal | collision
    · exact (place_eq_or_collision domains).imp_left (⟨equal, ·⟩)
    · exact .inr collision
  · exact .inr collision

/-! ## Binding -/

/-- The digest to sign binds the operation, the entry point and the chain, unless Keccak-256 collides on
texts that are hashed on the way. Packed gas figures bind both halves. -/
theorem bound_by_signingDigest :
    (∀ (one two : UserOperation) (here there : Address) (first second : UInt64),
      ((pack one.items).length = 288 ∧ (pack (domainItems first here)).length = 160 ∧
        (pack (one.envelope here first)).length = 66) ∧
      (one.signingDigest here first = two.signingDigest there second →
        (one = two ∧ here = there ∧ first = second) ∨
          SigningCollision one two here there first second)) ∧
      Function.Injective2 packGasLimits ∧ Function.Injective2 packGasFees := by
  refine ⟨fun one two here there first second => ⟨?_, eq_or_collision_of_signingDigest⟩,
    Word.ofHalves_injective, Word.ofHalves_injective⟩
  exact ⟨length_pack _, length_pack _, length_pack _⟩

end WalletPolicy.UserOperation

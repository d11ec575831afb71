import WalletPolicy.Approval.Binding
import WalletPolicy.Proofs.Abi.Commitment

/-!
# What approvals are bound to

The digests of intents and of approvals are taken here under any hash function. They bind every
field up to an explicit collision (`bound_by_digests`).
-/

namespace WalletPolicy.Intent

open Abi

/-! ## Texts that are hashed -/

section Texts

variable (hash : Bytes → Digest)

def preimage (intent : Intent) : Bytes := packBy hash intent.items

def approvalPreimage (intent : Intent) (expiresAt : UInt64) : Bytes :=
  packBy hash (intent.approvalItems expiresAt)

def digestBy (intent : Intent) : Digest := hash (intent.preimage hash)

def approvalDigestBy (intent : Intent) (expiresAt : UInt64) : Digest :=
  hash (intent.approvalPreimage hash expiresAt)

variable (intent : Intent) (expiresAt : UInt64)

theorem digestBy_of : intent.digestBy .of = intent.digest :=
  congrArg Digest.of (packBy_of intent.items)

theorem approvalDigestBy_of : intent.approvalDigestBy .of expiresAt = intent.approvalDigest expiresAt :=
  congrArg Digest.of (packBy_of (intent.approvalItems expiresAt))

theorem length_preimage : (intent.preimage hash).length = 160 := length_packBy hash intent.items

theorem length_approvalPreimage : (intent.approvalPreimage hash expiresAt).length = 224 :=
  length_packBy hash (intent.approvalItems expiresAt)

end Texts

/-! ## Binding -/

variable {hash : Bytes → Digest} {one two : Intent} {first second : UInt64}

theorem sameKinds_items : List.Forall₂ Item.SameKind one.items two.items :=
  .cons .uint64 <| .cons .address <| .cons .address <| .cons .uint64 <| .cons .hashed .nil

theorem sameKinds_approvalItems :
    List.Forall₂ Item.SameKind (one.approvalItems first) (two.approvalItems second) :=
  .cons .uint64 <| .cons .address <| .cons .address <| .cons .uint64 <| .cons .hashed <|
    .cons .uint64 <| .cons .uint64 .nil

theorem eq_or_collision_of_committed
    (same : one.items.map (Item.committed hash) = two.items.map (Item.committed hash)) :
    one = two ∨ Collision hash one.calldata two.calldata := by
  cases one
  cases two
  simp only [items, List.map_cons, Item.committed, List.map_nil, List.cons.injEq, and_true,
    Item.uint64.injEq, Item.address.injEq, Item.digest.injEq] at same
  obtain ⟨rfl, rfl, rfl, rfl, data⟩ := same
  exact (eq_or_collision data).imp_left fun equal => by rw [equal]

theorem eq_or_collision_of_digestBy (same : one.digestBy hash = two.digestBy hash) :
    one = two ∨ Collision hash one.calldata two.calldata ∨
      Collision hash (one.preimage hash) (two.preimage hash) := by
  rcases committed_eq_or_collision sameKinds_items same with committed | collision
  · exact (eq_or_collision_of_committed committed).imp_right .inl
  · exact .inr (.inr collision)

theorem eq_or_collision_of_approvalDigestBy
    (same : one.approvalDigestBy hash first = two.approvalDigestBy hash second) :
    (one = two ∧ first = second) ∨ Collision hash one.calldata two.calldata ∨
      Collision hash (one.approvalPreimage hash first) (two.approvalPreimage hash second) := by
  rcases committed_eq_or_collision sameKinds_approvalItems same with committed | collision
  · rw [approvalItems, approvalItems, List.map_append, List.map_append] at committed
    obtain ⟨intents, ends⟩ := List.append_inj committed rfl
    have expiry : first = second := by simpa [Item.committed] using ends
    exact (eq_or_collision_of_committed intents).imp (⟨·, expiry⟩) .inl
  · exact .inr (.inr collision)

theorem collision_of_digestBy_eq_approvalDigestBy
    (same : one.digestBy hash = two.approvalDigestBy hash second) :
    Collision hash (one.preimage hash) (two.approvalPreimage hash second) := by
  refine ⟨fun equal => ?_, same⟩
  -- The two texts differ in length.
  have lengths := congrArg List.length equal
  rw [length_preimage, length_approvalPreimage] at lengths
  cases lengths

/-- Digests bind every field of an intent, and the digest of an approval its expiry as well, unless
the hash function collides on texts that the fields give. -/
theorem bound_by_digests :
    (digestBy .of = digest ∧ approvalDigestBy .of = approvalDigest) ∧
      ∀ (hash : Bytes → Digest) (one two : Intent) (first second : UInt64),
        ((one.preimage hash).length = 160 ∧ (one.approvalPreimage hash first).length = 224) ∧
        (one.digestBy hash = two.digestBy hash →
          one = two ∨ Collision hash one.calldata two.calldata ∨
            Collision hash (one.preimage hash) (two.preimage hash)) ∧
        (one.approvalDigestBy hash first = two.approvalDigestBy hash second →
          (one = two ∧ first = second) ∨ Collision hash one.calldata two.calldata ∨
            Collision hash (one.approvalPreimage hash first) (two.approvalPreimage hash second)) ∧
        (one.digestBy hash = two.approvalDigestBy hash second →
          Collision hash (one.preimage hash) (two.approvalPreimage hash second)) := by
  refine ⟨⟨funext digestBy_of, funext fun intent => funext (intent.approvalDigestBy_of)⟩, ?_⟩
  intro hash one two first second
  exact ⟨⟨one.length_preimage hash, one.length_approvalPreimage hash first⟩,
    eq_or_collision_of_digestBy, eq_or_collision_of_approvalDigestBy,
    collision_of_digestBy_eq_approvalDigestBy⟩

/-- A hash function that sees nothing but the length of a text modulo 256. -/
def lengthDigest (data : Bytes) : Digest := ⟨.ofNat (data.length % 256)⟩

theorem collision_lengthDigest :
    let one : Intent := ⟨1, .zero, .zero, 5, []⟩
    let two : Intent := ⟨8453, .zero, .zero, 5, []⟩
    one.digestBy lengthDigest = two.digestBy lengthDigest ∧
      Collision lengthDigest (one.preimage lengthDigest) (two.preimage lengthDigest) := by
  intro one two
  have same : one.digestBy lengthDigest = two.digestBy lengthDigest := by
    simp only [digestBy, lengthDigest, length_preimage]
  refine ⟨same, ?_⟩
  rcases (bound_by_digests.2 lengthDigest one two 0 0).2.1 same with equal | data | texts
  · exact absurd equal (by decide)
  · exact absurd rfl data.ne
  · exact texts

end WalletPolicy.Intent

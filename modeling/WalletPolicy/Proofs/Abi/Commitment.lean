import WalletPolicy.Abi.Item
import WalletPolicy.Proofs.Abi.Words

/-!
# What packed items commit to

Items are packed without marks between them. But an item of a known kind has a known width, so two
lists of the same kinds that are packed alike hold the same items (`packBy_eq_iff`), up to a
collision of the digests of byte strings.
-/

namespace WalletPolicy

structure Collision (hash : Bytes → Digest) (left right : Bytes) : Prop where
  ne : left ≠ right
  same : hash left = hash right

theorem eq_or_collision {hash : Bytes → Digest} {left right : Bytes}
    (same : hash left = hash right) : left = right ∨ Collision hash left right := by
  by_cases equal : left = right
  · exact .inl equal
  · exact .inr ⟨equal, same⟩

namespace Bytes

theorem ofNat_inj {width m n : Nat} (left : m < 256 ^ width) (right : n < 256 ^ width) :
    ofNat width m = ofNat width n ↔ m = n := by
  constructor
  · intro same
    rw [← Nat.mod_eq_of_lt left, ← toNat_ofNat, same, toNat_ofNat, Nat.mod_eq_of_lt right]
  · exact congrArg _

end Bytes

namespace Abi

/-! ## Words -/

namespace Word

theorem injective_of_reader {Value : Type} {write : Value → Word} {read : Word → Option Value}
    (reads : ∀ {word value}, read word = some value ↔ word = write value) :
    Function.Injective write := by
  intro left right same
  have readsLeft : read (write left) = some left := reads.2 rfl
  have readsRight : read (write left) = some right := reads.2 same
  exact Option.some.inj (readsLeft.symm.trans readsRight)

theorem ofUInt64_injective : Function.Injective ofUInt64 :=
  injective_of_reader toUInt64?_eq_some_iff

theorem ofAddress_injective : Function.Injective ofAddress :=
  injective_of_reader toAddress?_eq_some_iff

theorem ofBool_injective : Function.Injective ofBool :=
  injective_of_reader toBool?_eq_some_iff

theorem ofNat_sixteen_injective :
    Function.Injective fun value : UInt128 => Bytes.ofNat 16 value.toNat := by
  intro left right same
  exact BitVec.eq_of_toNat_eq ((Bytes.ofNat_inj left.isLt right.isLt).1 same)

theorem ofUInt128_injective : Function.Injective ofUInt128 := by
  intro left right same
  exact ofNat_sixteen_injective (List.append_cancel_left (congrArg FixedBytes.toBytes same))

theorem ofHalves_injective : Function.Injective2 ofHalves := by
  intro high otherHigh low otherLow same
  obtain ⟨highs, lows⟩ := List.append_inj (congrArg FixedBytes.toBytes same) (by simp)
  exact ⟨ofNat_sixteen_injective highs, ofNat_sixteen_injective lows⟩

end Word

/-! ## Items -/

namespace Item

/-- Two items that hold values of one kind, and if these are bytes that are packed as they are, as
many of them. -/
inductive SameKind : Item → Item → Prop
  | raw {left right : Bytes} (width : left.length = right.length) : SameKind (.raw left) (.raw right)
  | word {left right : Word} : SameKind (.word left) (.word right)
  | address {left right : Address} : SameKind (.address left) (.address right)
  | uint64 {left right : UInt64} : SameKind (.uint64 left) (.uint64 right)
  | uint128 {left right : UInt128} : SameKind (.uint128 left) (.uint128 right)
  | flag {left right : Bool} : SameKind (.flag left) (.flag right)
  | digest {left right : Digest} : SameKind (.digest left) (.digest right)
  | hashed {left right : Bytes} : SameKind (.hashed left) (.hashed right)

def width : Item → Nat
  | .raw data => data.length
  | _ => 32

@[simp] theorem length_encode (item : Item) : item.encode.length = item.width := by
  cases item with
  | raw => rfl
  | _ => exact FixedBytes.length_toBytes _

def committed (hash : Bytes → Digest) : Item → Item
  | .hashed data => .digest (hash data)
  | item => item

variable {hash : Bytes → Digest} {left right : Item}

@[simp] theorem width_committed : (left.committed hash).width = left.width := by
  cases left <;> rfl

theorem encode_committed_of : (left.committed .of).encode = left.encode := by
  cases left <;> rfl

theorem SameKind.width_eq (kind : SameKind left right) : left.width = right.width := by
  cases kind with
  | raw width => exact width
  | _ => rfl

theorem SameKind.encode_committed_eq_iff (kind : SameKind left right) :
    (left.committed hash).encode = (right.committed hash).encode ↔
      left.committed hash = right.committed hash := by
  have digests {one two : Digest} : one.toBytes = two.toBytes ↔ one = two := by
    cases one
    cases two
    simp [Digest.toBytes, FixedBytes.ext_iff]
  cases kind with
  | raw => simp [committed, encode]
  | word => simp [committed, encode, ← FixedBytes.ext_iff]
  | address => simp [committed, encode, ← FixedBytes.ext_iff, Word.ofAddress_injective.eq_iff]
  | uint64 => simp [committed, encode, ← FixedBytes.ext_iff, Word.ofUInt64_injective.eq_iff]
  | uint128 => simp [committed, encode, ← FixedBytes.ext_iff, Word.ofUInt128_injective.eq_iff]
  | flag => simp [committed, encode, ← FixedBytes.ext_iff, Word.ofBool_injective.eq_iff]
  | digest => simp [committed, encode, digests]
  | hashed => simp [committed, encode, digests]

end Item

/-! ## Packing -/

section Packing

variable (hash : Bytes → Digest) {left right : List Item}

def packBy (items : List Item) : Bytes := pack (items.map (Item.committed hash))

theorem packBy_of (items : List Item) : packBy .of items = pack items := by
  induction items with
  | nil => rfl
  | cons item items ih =>
      rw [packBy, List.map_cons, pack_cons, pack_cons, Item.encode_committed_of]
      exact congrArg (item.encode ++ ·) ih

theorem length_pack (items : List Item) : (pack items).length = (items.map Item.width).sum := by
  simp [pack, List.length_flatMap]

theorem length_packBy (items : List Item) :
    (packBy hash items).length = (items.map Item.width).sum := by
  rw [packBy, length_pack, List.map_map]
  congr 2
  exact funext fun item => Item.width_committed

variable {hash}

theorem packBy_eq_iff (kinds : List.Forall₂ Item.SameKind left right) :
    packBy hash left = packBy hash right ↔
      left.map (Item.committed hash) = right.map (Item.committed hash) := by
  induction kinds with
  | nil => simp
  | @cons one two ones twos kind kinds ih =>
      have widths : (one.committed hash).encode.length = (two.committed hash).encode.length := by
        simp [kind.width_eq]
      simp only [packBy, List.map_cons, pack_cons, List.cons.injEq]
      rw [← kind.encode_committed_eq_iff, ← ih]
      constructor
      · intro same
        exact List.append_inj same widths
      · rintro ⟨first, rest⟩
        rw [first]
        exact congrArg _ rest

theorem committed_eq_or_collision (kinds : List.Forall₂ Item.SameKind left right)
    (same : hash (packBy hash left) = hash (packBy hash right)) :
    left.map (Item.committed hash) = right.map (Item.committed hash) ∨
      Collision hash (packBy hash left) (packBy hash right) :=
  (eq_or_collision same).imp_left (packBy_eq_iff kinds).1

end Packing

end Abi

end WalletPolicy

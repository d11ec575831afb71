import Mathlib.Data.List.Forall2
import WalletPolicy.Json.Basic
import WalletPolicy.Proofs.Toml.Keys

/-!
# JSON in any order

The members of an object have no order, so JSON is only known up to the order of members at every
depth (`Json.Alike`), and a form is lossless if values are read back from all JSON alike to what is
written (`Lossless`).
-/

namespace WalletPolicy

namespace Json

/-- The same JSON but for the order of members. -/
inductive Alike : Json → Json → Prop
  | null : Alike .null .null
  | bool {value : Bool} : Alike (.bool value) (.bool value)
  | integer {value : Int} : Alike (.integer value) (.integer value)
  | decimal {mantissa : Int} {places : Nat} :
      Alike (.decimal mantissa places) (.decimal mantissa places)
  | text {value : String} : Alike (.text value) (.text value)
  | list {items others : List Json} (each : List.Forall₂ Alike items others) :
      Alike (.list items) (.list others)
  | object {members ordered others : List (String × Json)} (order : members.Perm ordered)
      (names : ordered.map Prod.fst = others.map Prod.fst)
      (values : List.Forall₂ Alike (ordered.map Prod.snd) (others.map Prod.snd)) :
      Alike (.object members) (.object others)

mutual

theorem alike_refl (json : Json) : json.Alike json := by
  cases json with
  | null => exact .null
  | bool => exact .bool
  | integer => exact .integer
  | decimal => exact .decimal
  | text => exact .text
  | list items => exact .list (itemsAlike_refl items)
  | object members => exact .object (.refl members) rfl (membersAlike_refl members)

theorem itemsAlike_refl (items : List Json) : List.Forall₂ Alike items items := by
  cases items with
  | nil => exact .nil
  | cons item items => exact .cons (alike_refl item) (itemsAlike_refl items)

theorem membersAlike_refl (members : List (String × Json)) :
    List.Forall₂ Alike (members.map Prod.snd) (members.map Prod.snd) := by
  cases members with
  | nil => exact .nil
  | cons member members => exact .cons (alike_refl member.2) (membersAlike_refl members)

end

theorem eq_null_of_alike {json : Json} (alike : json.Alike .null) : json = .null := by
  cases alike
  rfl

/-! ## Members -/

def Has (members : List (String × Json)) (name : String) (value : Json) : Prop :=
  ∃ found, members.lookup name = some found ∧ value.Alike found

theorem exists_lookup_of_alike {ordered others : List (String × Json)}
    (names : ordered.map Prod.fst = others.map Prod.fst)
    (values : List.Forall₂ Alike (ordered.map Prod.snd) (others.map Prod.snd)) {name : String}
    {value : Json} (found : ordered.lookup name = some value) : Has others name value := by
  induction ordered generalizing others with
  | nil => cases found
  | cons first rest ih =>
      cases others with
      | nil => cases names
      | cons other others =>
          obtain ⟨sameName, names⟩ := List.cons.inj names
          obtain ⟨alike, values⟩ := List.forall₂_cons.1 values
          rw [List.lookup_cons] at found
          unfold Has
          rw [List.lookup_cons, ← sameName]
          cases isHere : name == first.1 with
          | true =>
              rw [isHere] at found
              obtain rfl := Option.some.inj found
              exact ⟨other.2, rfl, alike⟩
          | false =>
              rw [isHere] at found
              exact ih names values found

theorem Alike.has {members : List (String × Json)} {json : Json}
    (alike : (Json.object members).Alike json) (distinct : (members.map Prod.fst).Nodup) :
    ∃ others, json = .object others ∧ ∀ member ∈ members, Has others member.1 member.2 := by
  cases alike with
  | @object _ ordered others order names values =>
      refine ⟨others, rfl, fun member isMember => ?_⟩
      have distinctOrdered := (order.map Prod.fst).nodup_iff.1 distinct
      exact exists_lookup_of_alike names values
        (Toml.lookup_of_mem distinctOrdered (order.mem_iff.1 isMember))

theorem Alike.single {name : String} {value json : Json}
    (alike : (Json.object [(name, value)]).Alike json) :
    ∃ other, json = .object [(name, other)] ∧ value.Alike other := by
  cases alike with
  | @object _ ordered others order names values =>
      obtain rfl := List.perm_singleton.1 order.symm
      cases others with
      | nil => cases names
      | cons other rest =>
          obtain ⟨sameName, names⟩ := List.cons.inj names
          obtain ⟨alike, -⟩ := List.forall₂_cons.1 values
          obtain rfl := List.map_eq_nil_iff.1 names.symm
          exact ⟨other.2, by rw [show name = other.1 from sameName], alike⟩

end Json

/-! ## Lossless forms -/

/-- Every value is read back from what it is written as, whatever the order of members. -/
class Lossless (α : Type) [JsonForm α] : Prop where
  read_eq {value : α} {json : Json} (alike : (JsonForm.write value).Alike json) :
    JsonForm.read json = some value

class NeverNull (α : Type) [JsonForm α] : Prop where
  write_ne (value : α) : JsonForm.write value ≠ .null

namespace Lossless

variable {α : Type} [JsonForm α]

theorem read_write [Lossless α] (value : α) : JsonForm.read (JsonForm.write value) = some value :=
  read_eq (Json.alike_refl _)

theorem write_injective [Lossless α] {one two : α}
    (alike : (JsonForm.write one).Alike (JsonForm.write two)) : one = two :=
  Option.some.inj ((read_eq alike).symm.trans (read_write two))

instance : Lossless Bool where
  read_eq alike := by
    cases alike
    rfl

instance : Lossless String where
  read_eq alike := by
    cases alike
    rfl

instance : NeverNull String := ⟨nofun⟩

theorem map_integerIn?_eq_some {Value : Type} {least greatest number : Int} {ofInt : Int → Value}
    {value : Value} (fits : least ≤ number ∧ number ≤ greatest) (back : ofInt number = value) :
    ((Json.integer number).integerIn? least greatest).map ofInt = some value := by
  rw [Json.integerIn?, if_pos fits, Option.map_some, back]

instance : Lossless UInt8 where
  read_eq {value _} alike := by
    cases alike
    have small := value.toNat_lt_size
    exact map_integerIn?_eq_some (by omega) (by simp)

instance : Lossless UInt32 where
  read_eq {value _} alike := by
    cases alike
    have small := value.toNat_lt_size
    exact map_integerIn?_eq_some (by omega) (by simp)

instance : NeverNull UInt32 := ⟨nofun⟩

instance : Lossless UInt64 where
  read_eq {value _} alike := by
    cases alike
    have small := value.toNat_lt_size
    exact map_integerIn?_eq_some (by omega) (by simp)

instance : NeverNull UInt64 := ⟨nofun⟩

instance : Lossless Int64 where
  read_eq {value _} alike := by
    cases alike
    exact map_integerIn?_eq_some ⟨value.minValue_le_toInt, value.toInt_le⟩ (Int64.ofInt_toInt value)

instance [Lossless α] [NeverNull α] : Lossless (Option α) where
  read_eq {value json} alike := by
    cases value with
    | none =>
        cases alike
        rfl
    | some value =>
        have notNull : json ≠ .null := by
          rintro rfl
          exact NeverNull.write_ne value (Json.eq_null_of_alike alike)
        have read : (JsonForm.read json : Option α) = some value := read_eq alike
        cases json with
        | null => exact absurd rfl notNull
        | _ => exact congrArg (Option.map some) read

instance [Lossless α] : Lossless (List α) where
  read_eq {values json} alike := by
    cases alike with
    | @list _ others each =>
        change others.mapM JsonForm.read = some values
        induction values generalizing others with
        | nil =>
            cases each
            rfl
        | cons value values ih =>
            cases each with
            | cons first rest =>
                rw [List.mapM_cons, read_eq first, ih rest]
                rfl

instance : NeverNull (List α) := ⟨nofun⟩

/-! ## Records -/

theorem of_members (toMembers : α → List (String × Json))
    (writes : ∀ value, JsonForm.write value = .object (toMembers value))
    (distinct : ∀ value, ((toMembers value).map Prod.fst).Nodup)
    (reads : ∀ value members, (∀ member ∈ toMembers value, Json.Has members member.1 member.2) →
      JsonForm.read (.object members) = some value) : Lossless α where
  read_eq {value json} alike := by
    rw [writes] at alike
    obtain ⟨members, rfl, has⟩ := alike.has (distinct value)
    exact reads value members has

end Lossless

namespace Json.Has

variable {α : Type} [JsonForm α] [Lossless α] {members : List (String × Json)} {name : String}
  {value : α}

theorem read (has : Has members name (JsonForm.write value)) :
    ∃ found, members.lookup name = some found ∧ JsonForm.read found = some value := by
  obtain ⟨found, here, alike⟩ := has
  exact ⟨found, here, Lossless.read_eq alike⟩

theorem get (has : Has members name (JsonForm.write value)) (place : Nat) :
    (Members.named members).get place name = some value := by
  obtain ⟨found, here, alike⟩ := has
  unfold Members.get Members.find?
  simp only [here]
  exact Lossless.read_eq alike

theorem getText {written : String} (has : Has members name (.text written)) (place : Nat) :
    (Members.named members).get place name = some written :=
  get (α := String) has place

theorem lookup_text {written : String} (has : Has members name (.text written)) :
    members.lookup name = some (.text written) := by
  obtain ⟨found, here, alike⟩ := has
  cases alike
  exact here

end Json.Has

end WalletPolicy

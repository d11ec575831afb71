namespace WalletPolicy

abbrev Bytes := List UInt8

namespace Bytes

def slice? (data : Bytes) (start length : Nat) : Option Bytes :=
  if start + length ≤ data.length then some ((data.drop start).take length) else none

/-- The number that the bytes spell, most significant byte first. -/
def toNat (data : Bytes) : Nat :=
  data.foldl (fun total byte => total * 256 + byte.toNat) 0

def ofNat : Nat → Nat → Bytes
  | 0, _ => []
  | width + 1, n => ofNat width (n / 256) ++ [UInt8.ofNat n]

def allZero (data : Bytes) : Bool := data.all (· == 0)

@[simp] theorem length_ofNat (width n : Nat) : (ofNat width n).length = width := by
  induction width generalizing n with
  | zero => rfl
  | succ width ih => simp [ofNat, ih]

theorem toNat_append_singleton (data : Bytes) (byte : UInt8) :
    toNat (data ++ [byte]) = toNat data * 256 + byte.toNat := by
  simp [toNat, List.foldl_append]

theorem ofNat_toNat (data : Bytes) : ofNat data.length (toNat data) = data := by
  induction h : data.length generalizing data with
  | zero => simp [ofNat, List.length_eq_zero_iff.mp h]
  | succ length ih =>
    have nonempty : data ≠ [] := by
      intro empty
      simp [empty] at h
    have split := data.dropLast_concat_getLast nonempty
    have shorter : data.dropLast.length = length := by simp [h]
    generalize data.getLast nonempty = last at split
    generalize data.dropLast = front at split shorter
    subst split
    have small := last.toNat_lt
    have high : (toNat front * 256 + last.toNat) / 256 = toNat front := by omega
    have low : UInt8.ofNat (toNat front * 256 + last.toNat) = last := by
      apply UInt8.toNat.inj
      simp
    rw [toNat_append_singleton, ofNat, high, low, ih front shorter]

end Bytes

structure FixedBytes (size : Nat) where
  toBytes : Bytes
  length_eq : toBytes.length = size
  deriving DecidableEq

namespace FixedBytes

variable {size : Nat}

@[ext] theorem ext {left right : FixedBytes size} (h : left.toBytes = right.toBytes) :
    left = right := by
  cases left
  cases right
  simp_all

@[simp] theorem length_toBytes (value : FixedBytes size) : value.toBytes.length = size :=
  value.length_eq

def ofBytes? (data : Bytes) : Option (FixedBytes size) :=
  if h : data.length = size then some ⟨data, h⟩ else none

theorem ofBytes?_eq_some_iff {data : Bytes} {value : FixedBytes size} :
    ofBytes? data = some value ↔ data = value.toBytes := by
  unfold ofBytes?
  split
  · rw [Option.some_inj]
    exact ⟨fun h => h ▸ rfl, fun h => ext h⟩
  · next mismatch =>
    constructor
    · intro h
      cases h
    · intro h
      exact absurd (h ▸ value.length_eq) mismatch

theorem map_ofBytes?_eq_some_iff {Wrapped : Type} {wrap : FixedBytes size → Wrapped}
    {unwrap : Wrapped → FixedBytes size} (unwraps : ∀ bytes, unwrap (wrap bytes) = bytes)
    (wraps : ∀ value, wrap (unwrap value) = value) {data : Bytes} {value : Wrapped} :
    (ofBytes? data).map wrap = some value ↔ data = (unwrap value).toBytes := by
  rw [Option.map_eq_some_iff]
  constructor
  · rintro ⟨bytes, found, rfl⟩
    rw [unwraps]
    exact ofBytes?_eq_some_iff.1 found
  · intro same
    exact ⟨unwrap value, ofBytes?_eq_some_iff.2 same, wraps value⟩

def ofNat (n : Nat) : FixedBytes size := ⟨Bytes.ofNat size n, Bytes.length_ofNat size n⟩

def toNat (value : FixedBytes size) : Nat := Bytes.toNat value.toBytes

@[simp] theorem ofNat_toNat (value : FixedBytes size) : ofNat value.toNat = value := by
  apply ext
  have h := Bytes.ofNat_toNat value.toBytes
  rw [value.length_eq] at h
  exact h

def zero : FixedBytes size := ⟨List.replicate size 0, by simp⟩

instance : Inhabited (FixedBytes size) := ⟨zero⟩

end FixedBytes

end WalletPolicy

namespace WalletPolicy.Amount

def greatest : Nat := UInt64.size - 1

def saturate (n : Nat) : UInt64 := UInt64.ofNat (min n greatest)

def add (a b : UInt64) : UInt64 := saturate (a.toNat + b.toNat)

def sub (a b : UInt64) : UInt64 := UInt64.ofNat (a.toNat - b.toNat)

@[simp] theorem toNat_saturate (n : Nat) : (saturate n).toNat = min n greatest := by
  simp only [saturate, greatest, UInt64.size, UInt64.toNat_ofNat']
  omega

@[simp] theorem toNat_add (a b : UInt64) : (add a b).toNat = min (a.toNat + b.toNat) greatest :=
  toNat_saturate _

@[simp] theorem toNat_sub (a b : UInt64) : (sub a b).toNat = a.toNat - b.toNat := by
  have := a.toNat_lt
  simp only [sub, UInt64.toNat_ofNat']
  omega

def padLeft (width n : Nat) : String :=
  let digits := Nat.toDigits 10 n
  String.ofList (List.replicate (width - digits.length) '0' ++ digits)

def decimal (unitsPerWhole places n : Nat) : String :=
  let fraction := n % unitsPerWhole / (unitsPerWhole / Nat.pow 10 places)
  s!"{n / unitsPerWhole}.{padLeft places fraction}"

def native (wei : UInt64) : String := decimal 1000000000000000000 4 wei.toNat

def stablecoin (units : UInt64) : String := decimal 1000000 2 units.toNat

def basisPoints (points : UInt32) : String :=
  s!"{decimal 100 1 points.toNat}%"

end WalletPolicy.Amount

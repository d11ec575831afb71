import WalletPolicy.Toml.Basic

namespace WalletPolicy.Toml

def isWordChar (c : Char) : Bool := c.isAlphanum || "_+-.:".toList.contains c

/-! ## Runs of digits -/

def digitRun (isDigit : Char → Bool) : List Char → Option (List Char × List Char)
  | [] => none
  | c :: rest => if isDigit c then some (more [c] rest) else none
where
  more (reversed : List Char) : List Char → List Char × List Char
    | [] => (reversed.reverse, [])
    | '_' :: c :: rest =>
      if isDigit c then more (c :: reversed) rest else (reversed.reverse, '_' :: c :: rest)
    | c :: rest =>
      if isDigit c then more (c :: reversed) rest else (reversed.reverse, c :: rest)

def digitValue (c : Char) : Nat :=
  if c.isDigit then c.toNat - 48 else if c.isLower then c.toNat - 87 else c.toNat - 55

def isDigitOf (base : Nat) (c : Char) : Bool :=
  (c.isDigit || ('a' ≤ c && c ≤ 'f') || ('A' ≤ c && c ≤ 'F')) && digitValue c < base

def numberOf (base : Nat) (digits : List Char) : Nat :=
  digits.foldl (fun total c => total * base + digitValue c) 0

def sign : List Char → Bool × List Char
  | '+' :: rest => (false, rest)
  | '-' :: rest => (true, rest)
  | rest => (false, rest)

def wholePart (word : List Char) : Option (List Char × List Char) :=
  match word with
  | '0' :: rest => some (['0'], rest)
  | _ => digitRun Char.isDigit word

/-! ## Integers -/

def basedInteger (base : Nat) (word : List Char) : Option Toml :=
  match digitRun (isDigitOf base) word with
  | some (digits, []) => boundedInteger (numberOf base digits)
  | _ => none

def integerWord (word : List Char) : Option Toml :=
  match word with
  | '0' :: 'x' :: rest => basedInteger 16 rest
  | '0' :: 'o' :: rest => basedInteger 8 rest
  | '0' :: 'b' :: rest => basedInteger 2 rest
  | _ =>
    let (isNegative, unsigned) := sign word
    match wholePart unsigned with
    | some (digits, []) =>
      let n : Int := numberOf 10 digits
      boundedInteger (if isNegative then -n else n)
    | _ => none

/-! ## Floating-point numbers -/

/-- Whether a positive number with these decimal digits and this power of ten rounds to a finite
number of double precision. -/
def isFinite (digits : List Char) (exponent : Int) : Bool :=
  let significant := digits.dropWhile (· == '0')
  let magnitude : Int := significant.length + exponent
  let bound := Nat.pow 2 1024 - Nat.pow 2 970
  if significant.isEmpty || magnitude ≤ 308 then true
  else if 310 ≤ magnitude then false
  else numberOf 10 significant * Nat.pow 10 exponent.toNat < bound * Nat.pow 10 (-exponent).toNat

def exponentPart (word : List Char) : Option Int :=
  match word with
  | [] => some 0
  | e :: rest =>
    if e = 'e' ∨ e = 'E' then
      let (isNegative, unsigned) := sign rest
      match digitRun Char.isDigit unsigned with
      | some (digits, []) =>
        let n : Int := numberOf 10 digits
        some (if isNegative then -n else n)
      | _ => none
    else none

def decimalWord (word : List Char) : Option Toml :=
  let (isNegative, unsigned) := sign word
  let written := Toml.decimal (String.ofList word)
  if unsigned = "inf".toList ∨ unsigned = "nan".toList then some written
  else
    match wholePart unsigned with
    | none => none
    | some (_, []) => none
    | some (whole, '.' :: rest) => do
      let (fraction, rest) ← digitRun Char.isDigit rest
      let exponent ← exponentPart rest
      let fits := isNegative || isFinite (whole ++ fraction) (exponent - fraction.length)
      if fits then some written else none
    | some (whole, rest) => do
      let exponent ← exponentPart rest
      if isNegative || isFinite whole exponent then some written else none

/-! ## Words -/

def scalarWord (word : List Char) : Option Toml :=
  if word = "true".toList then some (.boolean true)
  else if word = "false".toList then some (.boolean false)
  else
    match Moment.read? word with
    | some value => some (.moment value)
    | none =>
      match decimalWord word with
      | some value => some value
      | none => integerWord word

end WalletPolicy.Toml

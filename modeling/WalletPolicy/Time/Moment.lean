import WalletPolicy.Time.Calendar

namespace WalletPolicy

structure TimeOfDay where
  hour : Nat
  minute : Nat
  second : Nat
  nanos : Nat
  deriving DecidableEq

inductive Offset where
  | universal
  | ahead (count : Int)
  deriving DecidableEq

inductive Moment where
  | day (date : Date)
  | clock (time : TimeOfDay)
  | both (date : Date) (time : TimeOfDay) (offset : Option Offset)
  deriving DecidableEq

/-! ## Texts -/

def TimeOfDay.toText (time : TimeOfDay) : String :=
  let digits := (Amount.padLeft 9 time.nanos).toList.reverse.dropWhile (· == '0')
  let fraction := if time.nanos = 0 then "" else "." ++ String.ofList digits.reverse
  s!"{Amount.padLeft 2 time.hour}:{Amount.padLeft 2 time.minute}:{Amount.padLeft 2 time.second}" ++
    fraction

def Offset.toText : Offset → String
  | .universal => "Z"
  | .ahead count =>
    let sign := if count < 0 then "-" else "+"
    s!"{sign}{Amount.padLeft 2 (count.natAbs / 60)}:{Amount.padLeft 2 (count.natAbs % 60)}"

def Moment.toText : Moment → String
  | .day date => date.toText
  | .clock time => time.toText
  | .both date time offset =>
    s!"{date.toText}T{time.toText}" ++ (offset.map Offset.toText).getD ""

/-! ## Reading -/

def fixedDigits (count : Nat) (input : List Char) : Option (Nat × List Char) :=
  let digits := input.take count
  if digits.length = count ∧ digits.all Char.isDigit then
    some (digits.foldl (fun total c => total * 10 + (c.toNat - 48)) 0, input.drop count)
  else none

def expect (c : Char) : List Char → Option (List Char)
  | d :: rest => if d = c then some rest else none
  | [] => none

def Date.daysOfMonth (year month : Nat) : Nat :=
  if month = 2 then
    if year % 4 = 0 ∧ (year % 100 ≠ 0 ∨ year % 400 = 0) then 29 else 28
  else if [4, 6, 9, 11].contains month then 30
  else 31

def Date.read? (input : List Char) : Option (Date × List Char) := do
  let (year, rest) ← fixedDigits 4 input
  let (month, rest) ← fixedDigits 2 (← expect '-' rest)
  let (day, rest) ← fixedDigits 2 (← expect '-' rest)
  if 1 ≤ month ∧ month ≤ 12 ∧ 1 ≤ day ∧ day ≤ daysOfMonth year month then
    some (⟨year, month, day⟩, rest)
  else none

namespace TimeOfDay

/-- The fraction of a second in nanoseconds, if there is one, and what follows. Digits beyond the
ninth do not count. -/
def readFraction? (input : List Char) : Option (Nat × List Char) :=
  match input with
  | '.' :: rest => do
    let digits := rest.takeWhile Char.isDigit
    let (nanos, _) ← fixedDigits 9 (digits ++ List.replicate 9 '0')
    if digits.isEmpty then none else some (nanos, rest.dropWhile Char.isDigit)
  | _ => some (0, input)

def read? (input : List Char) : Option (TimeOfDay × List Char) := do
  let (hour, rest) ← fixedDigits 2 input
  let (minute, rest) ← fixedDigits 2 (← expect ':' rest)
  let (second, rest) ← fixedDigits 2 (← expect ':' rest)
  let (nanos, rest) ← readFraction? rest
  if hour ≤ 23 ∧ minute ≤ 59 ∧ second ≤ 60 then
    some (⟨hour, minute, second, nanos⟩, rest)
  else none

end TimeOfDay

def Offset.read? (input : List Char) : Option Offset :=
  match input with
  | ['Z'] => some .universal
  | ['z'] => some .universal
  | sign :: rest => do
    let (hours, rest) ← fixedDigits 2 rest
    let (minutes, rest) ← fixedDigits 2 (← expect ':' rest)
    if (sign = '+' ∨ sign = '-') ∧ rest = [] ∧ hours ≤ 23 ∧ minutes ≤ 59 then
      let count : Int := hours * 60 + minutes
      some (.ahead (if sign = '-' then -count else count))
    else none
  | [] => none

def Moment.read? (input : List Char) : Option Moment :=
  match Date.read? input with
  | some (date, []) => some (.day date)
  | some (date, c :: rest) => do
    let (time, rest) ← TimeOfDay.read? rest
    if ['T', 't', ' '].contains c then
      if rest.isEmpty then some (.both date time none)
      else some (.both date time (← Offset.read? rest))
    else none
  | none =>
    match TimeOfDay.read? input with
    | some (time, []) => some (.clock time)
    | _ => none

end WalletPolicy

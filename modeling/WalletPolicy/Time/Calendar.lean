import WalletPolicy.Time.Instant
import WalletPolicy.Amount

namespace WalletPolicy

structure Date where
  year : Int
  month : Nat
  dayOfMonth : Nat
  deriving DecidableEq

namespace Date

/-- The date of a day. Years are counted from March, so that the day added in leap years is the
last of its year, in periods of 400 years. -/
def ofDay (day : Day) : Date :=
  let shifted := day + 719468
  let period := shifted / 146097
  let dayOfPeriod := (shifted % 146097).toNat
  let yearOfPeriod :=
    (dayOfPeriod - dayOfPeriod / 1460 + dayOfPeriod / 36524 - dayOfPeriod / 146096) / 365
  let dayOfYear := dayOfPeriod - (365 * yearOfPeriod + yearOfPeriod / 4 - yearOfPeriod / 100)
  let monthFromMarch := (5 * dayOfYear + 2) / 153
  let month := if monthFromMarch < 10 then monthFromMarch + 3 else monthFromMarch - 9
  let year := period * 400 + yearOfPeriod
  { year := if month ≤ 2 then year + 1 else year
    month
    dayOfMonth := dayOfYear - (153 * monthFromMarch + 2) / 5 + 1 }

def yearText (year : Int) : String :=
  if 0 ≤ year ∧ year ≤ 9999 then Amount.padLeft 4 year.toNat
  else if 0 ≤ year then "+" ++ Amount.padLeft 4 year.toNat
  else "-" ++ Amount.padLeft 4 year.natAbs

def toText (date : Date) : String :=
  s!"{yearText date.year}-{Amount.padLeft 2 date.month}-{Amount.padLeft 2 date.dayOfMonth}"

end Date

def Day.toText (day : Day) : String := (Date.ofDay day).toText

def Instant.toText (instant : Instant) : String :=
  let rest := (instant.millis % dayMillis).toNat
  let hours := Amount.padLeft 2 (rest / 3600000)
  let minutes := Amount.padLeft 2 (rest / 60000 % 60)
  let seconds := Amount.padLeft 2 (rest / 1000 % 60)
  let millis := if rest % 1000 = 0 then "" else "." ++ Amount.padLeft 3 (rest % 1000)
  s!"{Day.toText instant.day}T{hours}:{minutes}:{seconds}{millis}Z"

end WalletPolicy

/-!
Instants are in the range of calendar dates, to the millisecond. Spans of time are integers of
milliseconds.
-/
namespace WalletPolicy

def earliestMillis : Int := -8334601228800000  -- the first millisecond of the year -262143

def latestMillis : Int := 8210266876799999  -- the last millisecond of the year 262142

/-- A point in time: milliseconds since the start of 1970, without leap seconds. -/
structure Instant where
  millis : Int
  earliest_le : earliestMillis ≤ millis
  le_latest : millis ≤ latestMillis
  deriving DecidableEq

abbrev Day := Int

def secondMillis : Int := 1000

def hourMillis : Int := 3600000

def dayMillis : Int := 86400000

namespace Instant

@[ext] theorem ext {left right : Instant} (h : left.millis = right.millis) : left = right := by
  cases left
  cases right
  simp_all

def ofMillis? (millis : Int) : Option Instant :=
  if h : earliestMillis ≤ millis ∧ millis ≤ latestMillis then some ⟨millis, h.1, h.2⟩ else none

def epoch : Instant := ⟨0, by decide, by decide⟩

instance : Inhabited Instant := ⟨epoch⟩

def later? (instant : Instant) (span : Int) : Option Instant := ofMillis? (instant.millis + span)

def laterOrSame (instant : Instant) (span : Int) : Instant := (instant.later? span).getD instant

theorem millis_laterOrSame_neg {instant : Instant} {span : Int} (forward : 0 ≤ span)
    (roomy : earliestMillis + span ≤ instant.millis) :
    (instant.laterOrSame (-span)).millis = instant.millis - span := by
  have inRange : earliestMillis ≤ instant.millis + -span ∧ instant.millis + -span ≤ latestMillis := by
    have := instant.le_latest
    omega
  unfold laterOrSame later? ofMillis?
  rw [dif_pos inRange]
  rfl

def since (instant start : Instant) : Int := instant.millis - start.millis

def day (instant : Instant) : Day := instant.millis / dayMillis

def seconds (instant : Instant) : Int := instant.millis / secondMillis

/-- Whole seconds of a span, rounded towards zero. -/
def wholeSeconds (span : Int) : Int := span.tdiv secondMillis

end Instant

end WalletPolicy

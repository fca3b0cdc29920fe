import ChatClient.Time.Calendar

/-!
Instants: whole seconds since the beginning of 1970, and nanoseconds after that second. A leap
second has no number of its own: it is the second before it with a thousand million nanoseconds or
more.
-/
namespace ChatClient.Time

structure Instant where
  seconds : Int
  nanos : Nat := 0
deriving DecidableEq

def billion : Nat := 1000000000

namespace Instant

/-- An instant comes before another if its second does, or its part of the same second. -/
def lt (a b : Instant) : Bool :=
  a.seconds < b.seconds || (a.seconds = b.seconds && a.nanos < b.nanos)

/-- The first and the last second of the years that an instant can fall into. -/
def firstSecond : Int := (Date.toDays ⟨firstYear, 1, 1⟩) * 86400

def lastSecond : Int := (Date.toDays ⟨lastYear, 12, 31⟩) * 86400 + 86399

/-- The instant that is a whole number of seconds after the beginning of 1970, if its year can be
written. -/
def ofSeconds? (seconds : Int) : Option Instant :=
  if firstSecond ≤ seconds ∧ seconds ≤ lastSecond then some ⟨seconds, 0⟩ else none

/-- The instant some milliseconds later, or earlier if they are negative. Inside a leap second the
step counts the leap second as one that passes. -/
def advance (i : Instant) (milliseconds : Int) : Instant :=
  let seconds := milliseconds.tdiv 1000
  let part := milliseconds.tmod 1000 * 1000000
  let inLeap := billion ≤ i.nanos
  if inLeap ∧ seconds = 0 ∧ (i.nanos + part < 2 * billion ∨ part ≤ 0) then
    ⟨i.seconds, (i.nanos + part).toNat⟩
  else
    let nanos : Int := (if inLeap then (i.nanos - billion : Int) else i.nanos) + part
    let start := if inLeap ∧ seconds < 0 then i.seconds + 1 else i.seconds
    ⟨start + seconds + nanos / billion, (nanos % billion).toNat⟩

/-- The day of an instant, counted from 1970-01-01. -/
def day (i : Instant) : Int := i.seconds / 86400

/-- The second of the day, not counting a leap second. -/
def secondOfDay (i : Instant) : Nat := (i.seconds % 86400).toNat

end Instant

/-- What a clock shows, one reading after the other. It may stand still, and it may go back. -/
abbrev Clock := Nat → Instant

/-- A clock that has been read once. -/
def Clock.later (clock : Clock) : Clock := fun n => clock (n + 1)

end ChatClient.Time

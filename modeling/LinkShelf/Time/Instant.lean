import LinkShelf.Number.Binary64
import LinkShelf.Number.Shortest
import LinkShelf.Time.Calendar
/-!
Instants, counted in microseconds from the start of 1970, and the text of whole seconds.
-/
namespace LinkShelf

structure Instant where
  micros : Int
  deriving DecidableEq, Repr

namespace Instant

def secondsPerDay : Nat := 86400

/-- A clock time on a date, some microseconds east of Greenwich. -/
def ofClock (d : Date) (secondOfDay micros : Nat) (offset : Int) : Instant :=
  let days : Int := d.dayNumber - Date.epoch
  ⟨(days * secondsPerDay + secondOfDay) * 1000000 + micros - offset⟩

/-- Seconds from the start of 1970 as the nearest double. -/
def seconds (i : Instant) : Binary64 := .ofRatio (i.micros < 0) i.micros.natAbs 1000000

def padded (width n : Nat) : String :=
  let ds := Binary64.digitsText n
  Binary64.zeros (width - ds.length) ++ ds

/-- The first second of year 1 and the first one after year 9999. -/
def firstSecond : Int := -62135596800

def endSecond : Int := 253402300800

/-- Date and time of a whole number of seconds, in UTC, for the years 1 to 9999. -/
def utcText? (seconds : Int) : Option String :=
  if firstSecond ≤ seconds ∧ seconds < endSecond then
    let n := (seconds + Date.epoch * secondsPerDay).toNat
    let d := Date.ofDayNumber (n / secondsPerDay)
    let s := n % secondsPerDay
    some (padded 4 d.year ++ "-" ++ padded 2 d.month ++ "-" ++ padded 2 d.day ++ "T" ++
      padded 2 (s / 3600) ++ ":" ++ padded 2 (s / 60 % 60) ++ ":" ++ padded 2 (s % 60) ++ "+00:00")
  else none

end Instant

end LinkShelf

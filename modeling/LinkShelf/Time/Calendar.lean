/-!
Dates of the Gregorian calendar, extended back to year 1, and their day numbers. Counting from a
first of March puts the leap day at the end of its year.
-/
namespace LinkShelf

structure Date where
  year : Nat
  month : Nat
  day : Nat
  deriving DecidableEq, Repr

namespace Date

def isLeap (year : Nat) : Bool := year % 4 = 0 && (year % 100 != 0 || year % 400 = 0)

def daysInMonth (year month : Nat) : Nat :=
  if month = 2 then if isLeap year then 29 else 28
  else if month = 4 ∨ month = 6 ∨ month = 9 ∨ month = 11 then 30
  else 31

/-- Dates of the years 1 to 9999. -/
def Valid (d : Date) : Prop :=
  1 ≤ d.year ∧ d.year ≤ 9999 ∧ 1 ≤ d.month ∧ d.month ≤ 12 ∧ 1 ≤ d.day ∧
    d.day ≤ daysInMonth d.year d.month

instance (d : Date) : Decidable d.Valid := by unfold Valid; infer_instance

/-- Days from 1 March of year 0. -/
def dayNumber (d : Date) : Nat :=
  let y := if d.month ≤ 2 then d.year - 1 else d.year
  let m := (d.month + 9) % 12
  365 * y + y / 4 - y / 100 + y / 400 + (153 * m + 2) / 5 + (d.day - 1)

def ofDayNumber (n : Nat) : Date :=
  let era := n / 146097
  let doe := n % 146097
  let yoe := (doe - doe / 1460 + doe / 36524 - doe / 146096) / 365
  let doy := doe - (365 * yoe + yoe / 4 - yoe / 100)
  let m := (5 * doy + 2) / 153
  let month := if m < 10 then m + 3 else m - 9
  { year := 400 * era + yoe + (if month ≤ 2 then 1 else 0)
    month
    day := doy - (153 * m + 2) / 5 + 1 }

def epoch : Nat := 719468

/-- Monday is 0. -/
def weekday (d : Date) : Nat := (d.dayNumber + 2) % 7

/-- Years that begin on a Thursday, and leap years that begin on a Wednesday, have 53 weeks. -/
def weeksIn (year : Nat) : Nat :=
  let first := weekday ⟨year, 1, 1⟩
  if first = 3 ∨ (first = 2 ∧ isLeap year) then 53 else 52

/-- A day of a numbered week; week 1 is the one that holds 4 January. -/
def ofWeek? (year week day : Nat) : Option Date :=
  if 1 ≤ year ∧ 1 ≤ week ∧ week ≤ weeksIn year ∧ 1 ≤ day ∧ day ≤ 7 then
    let fourth : Date := ⟨year, 1, 4⟩
    some (ofDayNumber (fourth.dayNumber - fourth.weekday + 7 * (week - 1) + (day - 1)))
  else none

end Date

end LinkShelf

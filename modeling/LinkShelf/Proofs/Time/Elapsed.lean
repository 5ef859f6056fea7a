import LinkShelf.Proofs.Time.Calendar
/-!
Day numbers count days. From the first day of year 1 on, a date has behind it the whole years
before its own, the whole months before its own, and the days before it.
-/
namespace LinkShelf.Date

variable {d : Date}

def daysInYear (year : Nat) : Nat := if isLeap year then 366 else 365

/-- Days of the first so many years. -/
def daysOfYears : Nat → Nat
  | 0 => 0
  | y + 1 => daysOfYears y + daysInYear (y + 1)

/-- Days of the first so many months of a year. -/
def daysOfMonths (year : Nat) : Nat → Nat
  | 0 => 0
  | m + 1 => daysOfMonths year m + daysInMonth year (m + 1)

/-- Days from the first day of year 1. -/
def elapsed (d : Date) : Nat :=
  daysOfYears (d.year - 1) + daysOfMonths d.year (d.month - 1) + (d.day - 1)

/-- One for every year of so many. -/
def everyOther (n year : Nat) : Nat := if year % n = 0 then 1 else 0

theorem succ_div (y n : Nat) : (y + 1) / n = y / n + everyOther n (y + 1) := by
  rw [Nat.succ_div, everyOther]
  simp only [Nat.dvd_iff_mod_eq_zero]

/-- Every fourth year has a leap day, but only every fourth of the hundredth ones. -/
theorem daysInYear_eq (year : Nat) :
    daysInYear year + everyOther 100 year = 365 + everyOther 4 year + everyOther 400 year := by
  have hfour : year % 100 = 0 → year % 4 = 0 := by omega
  have hhundred : year % 400 = 0 → year % 100 = 0 := by omega
  by_cases h4 : year % 4 = 0 <;> by_cases h100 : year % 100 = 0 <;>
    by_cases h400 : year % 400 = 0 <;> simp_all [daysInYear, isLeap, everyOther]

theorem daysOfYears_eq (y : Nat) : daysOfYears y + y / 100 = 365 * y + y / 4 + y / 400 := by
  induction y with
  | zero => rfl
  | succ y ih =>
    have hyear := daysInYear_eq (y + 1)
    rw [daysOfYears, succ_div y 100, succ_div y 4, succ_div y 400]
    generalize y / 100 = hundreds, y / 4 = fours, y / 400 = cycles at ih ⊢
    omega

/-- The months from March on; all of them together have 306 days. -/
theorem daysOfMonths_eq (year : Nat) {m : Nat} (hm : m ≤ 9) :
    daysOfMonths year (m + 2) + 306 = (153 * m + 2) / 5 + daysInYear year := by
  induction m with
  | zero =>
    show 0 + 31 + (if isLeap year then 29 else 28) + 306 = 0 + daysInYear year
    unfold daysInYear
    split <;> rfl
  | succ m ih =>
    have hbefore := ih (Nat.le_of_succ_le hm)
    have hlength : daysInMonth year (m + 3) =
        if m = 1 ∨ m = 3 ∨ m = 6 ∨ m = 8 then 30 else 31 := by
      rw [daysInMonth, if_neg (by omega)]
      split <;> split <;> omega
    have hnext : daysOfMonths year (m + 1 + 2) =
        daysOfMonths year (m + 2) + daysInMonth year (m + 3) := rfl
    have hfirst : ∀ k < 9, (153 * (k + 1) + 2) / 5 = (153 * k + 2) / 5 +
        if k = 1 ∨ k = 3 ∨ k = 6 ∨ k = 8 then 30 else 31 := by decide
    rw [hnext, hlength, hfirst m hm]
    omega

/-- The first of March of year 0 is 306 days before year 1. -/
theorem dayNumber_eq_elapsed (h : d.Valid) : d.dayNumber = d.elapsed + 306 := by
  obtain ⟨year, month, day⟩ := d
  obtain ⟨hyear, -, hmonth, hmonth', -⟩ : 1 ≤ year ∧ year ≤ 9999 ∧ 1 ≤ month ∧ month ≤ 12 ∧ _ := h
  obtain ⟨y, rfl⟩ : ∃ y, year = y + 1 := Nat.exists_eq_add_of_le' hyear
  obtain ⟨m, rfl⟩ : ∃ m, month = m + 1 := Nat.exists_eq_add_of_le' hmonth
  simp only [elapsed, dayNumber, Nat.add_sub_cancel]
  rcases Nat.lt_or_ge m 2 with hearly | hlate
  · have hshift : (m + 1 + 9) % 12 = m + 10 := by omega
    have hmonths : daysOfMonths (y + 1) m = 31 * m := by
      obtain rfl | rfl : m = 0 ∨ m = 1 := by omega
      all_goals rfl
    have hyears := daysOfYears_eq y
    rw [if_pos (by omega), hshift, hmonths]
    omega
  · obtain ⟨k, rfl⟩ : ∃ k, m = k + 2 := Nat.exists_eq_add_of_le' hlate
    have hlast : k ≤ 9 := by omega
    have hshift : (k + 2 + 1 + 9) % 12 = k := by omega
    have hmonths := daysOfMonths_eq (y + 1) hlast
    have hyears := daysOfYears_eq (y + 1)
    rw [daysOfYears] at hyears
    rw [if_neg (by omega), hshift]
    omega

end LinkShelf.Date

import LinkShelf.Time.Calendar
/-!
Day numbers and dates are each other's inverse. A cycle of 146097 days is taken apart into
centuries, groups of four years, and years that begin with March; only the last year of a group,
of a cycle even where the group is cut short, has a day more.
-/
namespace LinkShelf.Date

variable {n doe : Nat}

/-- The first day of a year within its cycle. -/
def firstDay (year : Nat) : Nat := 365 * year + year / 4 - year / 100

/-- The year of a day within its cycle. -/
def yearOfEra (doe : Nat) : Nat := (doe - doe / 1460 + doe / 36524 - doe / 146096) / 365

/-- A day of a cycle but for the last one: century, group of four years, year and day. -/
theorem parts_of_era (h : doe < 146096) : ∃ c q t s, c ≤ 3 ∧ q ≤ 24 ∧ t ≤ 3 ∧
    (s < 365 ∨ s = 365 ∧ t = 3 ∧ q < 24) ∧ doe = 36524 * c + 1461 * q + 365 * t + s := by
  refine ⟨doe / 36524, doe % 36524 / 1461, min 3 (doe % 36524 % 1461 / 365),
    doe % 36524 % 1461 - 365 * min 3 (doe % 36524 % 1461 / 365), ?_⟩
  omega

theorem firstDay_parts (c : Nat) {q t : Nat} (hq : q ≤ 24) (ht : t ≤ 3) :
    firstDay (100 * c + 4 * q + t) = 36524 * c + 1461 * q + 365 * t := by
  unfold firstDay
  omega

theorem yearOfEra_parts {c q t s : Nat} (hc : c ≤ 3) (hq : q ≤ 24) (ht : t ≤ 3)
    (hs : s < 365 ∨ s = 365 ∧ t = 3 ∧ q < 24)
    (h : doe = 36524 * c + 1461 * q + 365 * t + s) : yearOfEra doe = 100 * c + 4 * q + t := by
  have hcentury : doe / 36524 = c := by omega
  have hcycle : doe / 146096 = 0 := by omega
  have hgroup : doe / 1460 = 25 * c + q ∨ (doe / 1460 = 25 * c + q + 1 ∧ t = 3 ∧ 1 ≤ s) := by omega
  unfold yearOfEra
  omega

/-- A day lies in its year, at whose end there is a day more if it is a leap day. -/
theorem yearOfEra_spec (h : doe < 146097) : yearOfEra doe ≤ 399 ∧
    ∃ s, doe = firstDay (yearOfEra doe) + s ∧ s ≤ 365 ∧
      (s = 365 → isLeap (yearOfEra doe + 1) = true) := by
  rcases Nat.lt_or_eq_of_le (Nat.le_of_lt_succ h) with hlt | rfl
  · obtain ⟨c, q, t, s, hc, hq, ht, hs, hsum⟩ := parts_of_era hlt
    rw [yearOfEra_parts hc hq ht hs hsum, firstDay_parts c hq ht]
    refine ⟨by omega, s, by omega, by omega, ?_⟩
    rintro rfl
    simp only [isLeap, Bool.and_eq_true, Bool.or_eq_true, decide_eq_true_eq, bne_iff_ne]
    omega
  · exact ⟨by decide, 365, by decide⟩

/-- A day number is that of a day in a year that begins with March. -/
theorem exists_day (n : Nat) : ∃ era y s, y ≤ 399 ∧ s ≤ 365 ∧ (s = 365 → isLeap (y + 1) = true) ∧
    n = 146097 * era + firstDay y + s ∧
    ofDayNumber n =
      let m := (5 * s + 2) / 153
      let month := if m < 10 then m + 3 else m - 9
      { year := 400 * era + y + (if month ≤ 2 then 1 else 0)
        month
        day := s - (153 * m + 2) / 5 + 1 } := by
  obtain ⟨hy, s, hs, hlast, hleap⟩ := yearOfEra_spec (Nat.mod_lt n (by decide : 0 < 146097))
  refine ⟨n / 146097, _, s, hy, hlast, hleap, by omega, ?_⟩
  have hrest : n % 146097 - firstDay (yearOfEra (n % 146097)) = s := by omega
  unfold firstDay yearOfEra at hrest
  simp only [ofDayNumber, hrest, yearOfEra]

theorem dayNumber_ofDayNumber (n : Nat) : (ofDayNumber n).dayNumber = n := by
  obtain ⟨era, y, s, hy, hs, -, hn, hdate⟩ := exists_day n
  have hyear : 365 * (400 * era + y) + (400 * era + y) / 4 - (400 * era + y) / 100 +
      (400 * era + y) / 400 = 146097 * era + firstDay y := by
    unfold firstDay
    omega
  have hm : (5 * s + 2) / 153 ≤ 11 := by omega
  have hday : (153 * ((5 * s + 2) / 153) + 2) / 5 ≤ s := by omega
  rw [hdate]
  dsimp only
  generalize (5 * s + 2) / 153 = m at hm hday
  by_cases hlt : m < 10
  · have hmonth : ¬m + 3 ≤ 2 := by omega
    have hback : (m + 3 + 9) % 12 = m := by omega
    simp only [dayNumber, if_pos hlt, if_neg hmonth, hback, Nat.add_zero, hyear]
    omega
  · have hmonth : m - 9 ≤ 2 := by omega
    have hback : (m - 9 + 9) % 12 = m := by omega
    simp only [dayNumber, if_neg hlt, if_pos hmonth, hback, Nat.add_sub_cancel, hyear]
    omega

theorem isLeap_of_era (era y : Nat) : isLeap (400 * era + y) = isLeap y := by
  have hfour : (400 * era + y) % 4 = y % 4 := by omega
  have hcentury : (400 * era + y) % 100 = y % 100 := by omega
  have hcycle : (400 * era + y) % 400 = y % 400 := by omega
  rw [isLeap, isLeap, hfour, hcentury, hcycle]

/-- No month has more days than it has. The last one is February. -/
theorem day_le (year : Nat) {m s : Nat} (hm : m = (5 * s + 2) / 153) (hs : s ≤ 365)
    (hleap : s = 365 → isLeap year = true) :
    s - (153 * m + 2) / 5 + 1 ≤ daysInMonth year (if m < 10 then m + 3 else m - 9) := by
  have hlast : m ≤ 11 := by omega
  by_cases hfebruary : m = 11
  · subst hfebruary
    by_cases hs' : s = 365
    · simp [daysInMonth, hleap hs', hs']
    · have : 28 ≤ daysInMonth year 2 := by
        simp only [daysInMonth, if_true]
        split <;> omega
      exact Nat.le_trans (by omega) this
  · have hcases : m = 0 ∨ m = 1 ∨ m = 2 ∨ m = 3 ∨ m = 4 ∨ m = 5 ∨ m = 6 ∨ m = 7 ∨ m = 8 ∨
        m = 9 ∨ m = 10 := by omega
    rcases hcases with h | h | h | h | h | h | h | h | h | h | h <;> subst h <;>
      simp [daysInMonth] <;> omega

/-- From 1 January of year 1 to 31 December of year 9999. -/
theorem valid_ofDayNumber (hlow : 306 ≤ n) (hhigh : n < 3652365) : (ofDayNumber n).Valid := by
  obtain ⟨era, y, s, hy, hs, hleap, hn, hdate⟩ := exists_day n
  have hera : era ≤ 24 := by omega
  have hmost : era = 24 → y = 399 → s < 306 := by
    unfold firstDay at hn
    omega
  have hleast : era = 0 → y = 0 → 306 ≤ s := by
    unfold firstDay at hn
    omega
  rw [hdate]
  simp only [Valid]
  by_cases hmonth : (5 * s + 2) / 153 < 10
  · have hlength := day_le (400 * era + y) rfl hs fun h => absurd hmonth (by omega)
    rw [if_pos hmonth] at hlength ⊢
    rw [if_neg (by omega), Nat.add_zero]
    exact ⟨by omega, by omega, by omega, by omega, by omega, hlength⟩
  · have hlength := day_le (400 * era + y + 1) rfl hs fun h => by
      rw [Nat.add_assoc, isLeap_of_era]
      exact hleap h
    rw [if_neg hmonth] at hlength ⊢
    rw [if_pos (by omega)]
    exact ⟨by omega, by omega, by omega, by omega, by omega, hlength⟩

end LinkShelf.Date

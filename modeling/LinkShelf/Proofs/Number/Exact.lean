import LinkShelf.Proofs.Number.Rounding
/-!
Doubles that are exact. A count of units that is a multiple of the spacing of its magnitude is not
rounded, and every whole number of at most 53 bits is such a one. Rounding makes no infinity of a
number far below the largest.
-/
namespace LinkShelf.Binary64

theorem oneUnits_pos : 0 < oneUnits := by decide +kernel

theorem one_lt_overflow : oneUnits < overflowUnits := by decide +kernel

theorem spacing_oneUnits : spacing oneUnits ∣ oneUnits := by
  rw [oneUnits]
  exact spacing_two_pow_dvd 1074

theorem overflowUnits_pos : 0 < overflowUnits := Nat.lt_trans oneUnits_pos one_lt_overflow

theorem overflowUnits_eq : overflowUnits = 2 ^ 1024 * oneUnits := by
  rw [oneUnits, ← Nat.pow_add, overflowUnits]

theorem two_pow_lt_overflow {e : Nat} (h : e < 1024) : 2 ^ e * oneUnits < overflowUnits := by
  rw [overflowUnits_eq, Nat.mul_lt_mul_right oneUnits_pos]
  exact Nat.pow_lt_pow_right Nat.one_lt_two h

theorem ofUnits_of_dvd (negative : Bool) {units den : Nat} (hden : 0 < den)
    (h : spacing units ∣ units) (hlt : units < overflowUnits) :
    ofUnits negative (units * den) den = .finite negative units := by
  rw [ofUnits_eq, rounded_of_dvd hden h, if_pos hlt]

theorem log2_mul_two_pow {n : Nat} (hn : n ≠ 0) (e : Nat) : (n * 2 ^ e).log2 = n.log2 + e := by
  induction e with
  | zero => simp
  | succ e ih =>
    have hne : n * 2 ^ e ≠ 0 := Nat.mul_ne_zero hn (Nat.ne_of_gt (Nat.two_pow_pos e))
    rw [Nat.pow_succ, ← Nat.mul_assoc, Nat.mul_comm _ 2, Nat.log2_two_mul hne, ih, Nat.add_assoc]

/-- Of all numbers of more than 53 bits only the first power of two is looked at, which is a
multiple of itself. -/
theorem spacing_dvd_shifted {n e : Nat} (h : n ≤ 2 ^ 53) (he : 52 ≤ e) :
    spacing (n * 2 ^ e) ∣ n * 2 ^ e := by
  rcases Nat.eq_zero_or_pos n with rfl | hpos
  · simp [spacing]
  have hne : n ≠ 0 := Nat.ne_of_gt hpos
  rw [spacing, log2_mul_two_pow hne]
  rcases Nat.lt_or_eq_of_le h with hlt | rfl
  · have hbits : n.log2 < 53 := (Nat.log2_lt hne).mpr hlt
    exact Nat.dvd_trans (Nat.pow_dvd_pow 2 (by omega)) (Nat.dvd_mul_left _ n)
  · rw [Nat.log2_two_pow, ← Nat.pow_add]
    exact Nat.pow_dvd_pow 2 (by omega)

/-- A ratio that comes to a whole number of at most 53 bits is not rounded. -/
theorem ofRatio_whole (negative : Bool) {n den : Nat} (hden : 0 < den) (h : n ≤ 2 ^ 53) :
    ofRatio negative (n * den) den = .finite negative (n * oneUnits) := by
  have hdvd : spacing (n * oneUnits) ∣ n * oneUnits := by
    obtain ⟨e, he, hone⟩ : ∃ e, 52 ≤ e ∧ oneUnits = 2 ^ e := ⟨1074, by omega, by rw [oneUnits]⟩
    rw [hone]
    exact spacing_dvd_shifted h he
  have hmul : n * oneUnits ≤ 2 ^ 53 * oneUnits := Nat.mul_le_mul_right _ h
  have hlt : 2 ^ 53 * oneUnits < overflowUnits := two_pow_lt_overflow (by decide)
  rw [ofRatio, Nat.mul_right_comm]
  exact ofUnits_of_dvd negative hden hdvd (Nat.lt_of_le_of_lt hmul hlt)

theorem ofInt?_eq {n : Int} (h : n.natAbs ≤ 2 ^ 53) :
    ofInt? n = some (.finite (n < 0) (n.natAbs * oneUnits)) := by
  have hwhole := ofRatio_whole (n < 0) Nat.one_pos h
  rw [Nat.mul_one] at hwhole
  exact congrArg finite? hwhole

section Range

theorem divEven_le (num den : Nat) : divEven num den ≤ num / den + 1 := by
  simp only [divEven]
  split <;> omega

/-- Rounding at most doubles a number. -/
theorem rounded_le_double (num den : Nat) : rounded num den ≤ 2 * (num / den) + 1 := by
  have hstep : spacing (num / den) ≤ num / den + 1 := by
    rcases Nat.eq_zero_or_pos (num / den) with h | h
    · rw [h]
      decide
    · have hpow : spacing (num / den) ≤ 2 ^ (num / den).log2 :=
        Nat.pow_le_pow_right (by omega) (Nat.sub_le ..)
      exact Nat.le_succ_of_le (Nat.le_trans hpow (Nat.log2_self_le (Nat.ne_of_gt h)))
  have hround := divEven_le num (den * spacing (num / den))
  rw [← Nat.div_div_eq_div_mul] at hround
  calc rounded num den
      ≤ (num / den / spacing (num / den) + 1) * spacing (num / den) := Nat.mul_le_mul_right _ hround
    _ = num / den / spacing (num / den) * spacing (num / den) + spacing (num / den) :=
        Nat.succ_mul ..
    _ ≤ num / den + spacing (num / den) := Nat.add_le_add_right (Nat.div_mul_le_self ..) _
    _ ≤ 2 * (num / den) + 1 := by omega

/-- A ratio whose numerator is no huge number is a finite double. -/
theorem ofRatio_finite (negative : Bool) {num : Nat} (h : num ≤ 2 ^ 64) (den : Nat) :
    ∃ units, ofRatio negative num den = .finite negative units := by
  have hmul : num * oneUnits / den ≤ 2 ^ 64 * oneUnits :=
    Nat.le_trans (Nat.div_le_self ..) (Nat.mul_le_mul_right _ h)
  have hlarge : 2 ^ 66 * oneUnits < overflowUnits := two_pow_lt_overflow (by decide)
  have hone := oneUnits_pos
  have hunits := rounded_le_double (num * oneUnits) den
  have hbound : rounded (num * oneUnits) den < overflowUnits := by
    generalize overflowUnits = most at hlarge ⊢
    generalize oneUnits = one at hmul hlarge hunits hone ⊢
    omega
  exact ⟨_, by rw [ofRatio, ofUnits_eq, if_pos hbound]⟩

end Range

end LinkShelf.Binary64

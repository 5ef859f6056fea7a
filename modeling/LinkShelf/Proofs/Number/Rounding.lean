import LinkShelf.Number.Binary64
/-!
Rounding to the doubles, on counts of units. It keeps the order of numbers and leaves alone those
that need none.
-/
namespace LinkShelf.Binary64

variable {a b num den k u v : Nat}

theorem divEven_of_dvd {num den : Nat} (hd : 0 < den) (h : den ∣ num) :
    divEven num den = num / den := by
  have hrest : num % den = 0 := Nat.mod_eq_zero_of_dvd h
  simp only [divEven, hrest, Nat.mul_zero, hd, true_or, if_true]

theorem divEven_mono (h : a ≤ b) : divEven a den ≤ divEven b den := by
  have ha := Nat.div_add_mod a den
  have hb := Nat.div_add_mod b den
  have hdiv : a / den ≤ b / den := Nat.div_le_div_right h
  simp only [divEven]
  rcases Nat.lt_or_eq_of_le hdiv with hlt | heq
  · split <;> split <;> omega
  · have hrest : a % den ≤ b % den := by
      rw [heq] at ha
      omega
    rw [heq]
    split <;> split <;> omega

theorem divEven_mul (hd : 0 < den) (k : Nat) : divEven (k * den) den = k := by
  rw [divEven_of_dvd hd (Nat.dvd_mul_left den k), Nat.mul_div_cancel k hd]

theorem divEven_le_of_le (hd : 0 < den) (h : num ≤ k * den) : divEven num den ≤ k :=
  divEven_mul hd k ▸ divEven_mono h

theorem le_divEven_of_le (hd : 0 < den) (h : k * den ≤ num) : k ≤ divEven num den :=
  divEven_mul hd k ▸ divEven_mono h

/-- The count of units that a quotient is rounded to. -/
def rounded (num den : Nat) : Nat :=
  divEven num (den * spacing (num / den)) * spacing (num / den)

theorem ofUnits_eq (s : Bool) (num den : Nat) : ofUnits s num den =
    if rounded num den < overflowUnits then .finite s (rounded num den) else .infinite s := rfl

theorem spacing_pos (u : Nat) : 0 < spacing u := Nat.two_pow_pos _

theorem spacing_two_pow_dvd (e : Nat) : spacing (2 ^ e) ∣ 2 ^ e := by
  rw [spacing, Nat.log2_two_pow]
  exact Nat.pow_dvd_pow 2 (Nat.sub_le e 52)

theorem spacing_mono (h : u ≤ v) : spacing u ≤ spacing v := by
  refine Nat.pow_le_pow_right Nat.two_pos (Nat.sub_le_sub_right ?_ 52)
  rcases Nat.eq_zero_or_pos u with rfl | hu
  · exact Nat.zero_le _
  · exact (Nat.le_log2 (by omega)).mpr (Nat.le_trans (Nat.log2_self_le (by omega)) h)

/-- Every number lies within 53 bits of its spacing, and so does what it is rounded to. -/
theorem rounded_le (hd : 0 < den) : rounded num den ≤ 2 ^ 53 * spacing (num / den) := by
  refine Nat.mul_le_mul_right _
    (divEven_le_of_le (Nat.mul_pos hd (spacing_pos (num / den))) ?_)
  have hlog : num / den < 2 ^ 53 * spacing (num / den) := by
    rw [spacing, ← Nat.pow_add]
    exact Nat.lt_of_lt_of_le Nat.lt_log2_self (Nat.pow_le_pow_right Nat.two_pos (by omega))
  have hnum := (Nat.div_lt_iff_lt_mul hd).mp hlog
  rw [Nat.mul_left_comm, Nat.mul_comm den]
  exact Nat.le_of_lt (by rwa [Nat.mul_assoc] at hnum ⊢)

theorem le_rounded_of_log2 (hd : 0 < den) (h : 52 ≤ (num / den).log2) :
    2 ^ 52 * spacing (num / den) ≤ rounded num den := by
  refine Nat.mul_le_mul_right _
    (le_divEven_of_le (Nat.mul_pos hd (spacing_pos (num / den))) ?_)
  have hne : num / den ≠ 0 := by
    intro hzero
    rw [hzero] at h
    exact absurd h (by decide)
  have hlog : 2 ^ 52 * spacing (num / den) ≤ num / den := by
    rw [spacing, ← Nat.pow_add, Nat.add_sub_cancel' h]
    exact Nat.log2_self_le hne
  have hnum := (Nat.le_div_iff_mul_le hd).mp hlog
  rwa [Nat.mul_left_comm, Nat.mul_comm den]

/-- Rounding is monotone, also where the spacing changes: what is below the next power of two is
rounded to that power at most. -/
theorem rounded_mono (hd : 0 < den) (h : a ≤ b) : rounded a den ≤ rounded b den := by
  have hspacing := spacing_mono (Nat.div_le_div_right h : a / den ≤ b / den)
  rcases Nat.lt_or_eq_of_le hspacing with hlt | heq
  · have hexp : (a / den).log2 - 52 < (b / den).log2 - 52 :=
      (Nat.pow_lt_pow_iff_right (by decide)).mp hlt
    have hdouble : 2 ^ 53 * spacing (a / den) ≤ 2 ^ 52 * spacing (b / den) := by
      rw [spacing, spacing, ← Nat.pow_add, ← Nat.pow_add]
      exact Nat.pow_le_pow_right Nat.two_pos (by omega)
    calc rounded a den ≤ 2 ^ 53 * spacing (a / den) := rounded_le hd
      _ ≤ 2 ^ 52 * spacing (b / den) := hdouble
      _ ≤ rounded b den := le_rounded_of_log2 hd (by omega)
  · rw [rounded, rounded, heq]
    exact Nat.mul_le_mul_right _ (divEven_mono h)

theorem rounded_of_dvd (hd : 0 < den) (h : spacing u ∣ u) : rounded (u * den) den = u := by
  have hstep : u * den = u / spacing u * (den * spacing u) := by
    rw [Nat.mul_left_comm, Nat.div_mul_cancel h, Nat.mul_comm]
  rw [rounded, Nat.mul_div_cancel u hd, hstep,
    divEven_mul (Nat.mul_pos hd (spacing_pos u)), Nat.div_mul_cancel h]

theorem rounded_zero (den : Nat) : rounded 0 den = 0 := by
  have hq : divEven 0 (den * spacing (0 / den)) = 0 := by
    generalize den * spacing (0 / den) = step
    simp only [divEven, Nat.zero_div, Nat.zero_mod, Nat.mul_zero, and_true]
    exact if_pos ((Nat.eq_zero_or_pos step).symm.imp_right Eq.symm)
  rw [rounded, hq, Nat.zero_mul]

end LinkShelf.Binary64

import LinkShelf.Proofs.Number.Exact
/-!
The whole numbers beyond all doubles. They start half a step above the largest double, since a
number in the middle between that and the next power of two is rounded up.
-/
namespace LinkShelf.Binary64

variable {num k m : Nat}

/-- The smallest whole number that is rounded to no finite double. -/
def firstOverflow : Nat := (2 ^ 54 - 1) * 2 ^ 970

theorem divEven_mul_right {c : Nat} (hc : 0 < c) (a b : Nat) :
    divEven (a * c) (b * c) = divEven a b := by
  have hlt : 2 * (a % b * c) < b * c ↔ 2 * (a % b) < b := by
    rw [← Nat.mul_assoc]
    exact Nat.mul_lt_mul_right hc
  have heq : 2 * (a % b * c) = b * c ↔ 2 * (a % b) = b := by
    rw [← Nat.mul_assoc]
    exact Nat.mul_left_inj (Nat.ne_of_gt hc)
  simp only [divEven, Nat.mul_div_mul_right _ _ hc, Nat.mul_mod_mul_right, hlt, heq]

/-- Rounding does not go below the power of two that a number starts with. -/
theorem le_rounded (h : 52 ≤ num.log2) : 2 ^ num.log2 ≤ rounded num 1 := by
  have hlow := le_rounded_of_log2 Nat.one_pos (num.div_one.symm ▸ h)
  rwa [Nat.div_one, spacing, ← Nat.pow_add, Nat.add_sub_cancel' h] at hlow

/-- Of the numbers with the largest exponent, those from the middle of the last step on are
rounded up to the next power of two. -/
theorem divEven_top (hk : 0 < k) (h : m < 2 ^ 53 * (2 * k)) :
    2 ^ 53 ≤ divEven m (2 * k) ↔ (2 ^ 54 - 1) * k ≤ m := by
  have hq : m / (2 * k) < 2 ^ 53 := by
    rw [Nat.div_lt_iff_lt_mul (by omega)]
    exact h
  have hm := Nat.div_add_mod m (2 * k)
  have hr := Nat.mod_lt m (show 0 < 2 * k by omega)
  simp only [divEven]
  generalize m / (2 * k) = q at hm hq ⊢
  generalize m % (2 * k) = r at hm hr ⊢
  by_cases hlast : q = 2 ^ 53 - 1
  · subst hlast
    have hodd : ¬(2 ^ 53 - 1) % 2 = 0 := by decide
    simp only [hodd, and_false, or_false]
    split <;> omega
  · have hle : 2 * k * q ≤ 2 * k * (2 ^ 53 - 2) := Nat.mul_le_mul_left _ (by omega)
    constructor
    · intro hround
      split at hround <;> omega
    · intro hlarge
      omega

theorem ofInt?_none_iff_rounded {n : Int} :
    ofInt? n = none ↔ overflowUnits ≤ rounded (n.natAbs * oneUnits) 1 := by
  rw [ofInt?, ofRatio, ofUnits_eq]
  split
  · rename_i hlt
    exact iff_of_false (Option.some_ne_none _) (Nat.not_le_of_lt hlt)
  · rename_i hge
    exact iff_of_true rfl (Nat.not_lt.mp hge)

theorem overflowUnits_half : overflowUnits = 2 * (2 ^ 1023 * oneUnits) := by
  rw [overflowUnits_eq, ← Nat.mul_assoc, ← Nat.pow_succ']

theorem overflowUnits_steps : overflowUnits = 2 ^ 53 * (2 * 2 ^ 970 * oneUnits) := by
  rw [overflowUnits_eq, ← Nat.mul_assoc, ← Nat.pow_succ', ← Nat.pow_add 2 53 971]

theorem firstOverflow_bounds : 2 ^ 1023 ≤ firstOverflow ∧ firstOverflow ≤ 2 ^ 1024 := by
  decide +kernel

/-- The spacing of the numbers with the largest exponent. -/
theorem spacing_top (hlow : 2 ^ 1023 ≤ m) (hhigh : m < 2 ^ 1024) :
    spacing (m * oneUnits) = 2 * 2 ^ 970 * oneUnits := by
  have hpos : 0 < 2 ^ 1023 := by decide +kernel
  have hne : m ≠ 0 := Nat.ne_of_gt (Nat.lt_of_lt_of_le hpos hlow)
  have hge : 1023 ≤ m.log2 := (Nat.le_log2 hne).mpr hlow
  have hlt : m.log2 < 1024 := (Nat.log2_lt hne).mpr hhigh
  have hlog : m.log2 = 1023 := by omega
  rw [spacing, oneUnits, log2_mul_two_pow hne, hlog]
  decide +kernel

/-- A whole number is beyond all doubles just from that number on, on either side of zero. -/
theorem ofInt?_eq_none {n : Int} : ofInt? n = none ↔ firstOverflow ≤ n.natAbs := by
  rw [ofInt?_none_iff_rounded]
  obtain ⟨hfirst, hfirst'⟩ := firstOverflow_bounds
  generalize n.natAbs = m
  rcases Nat.lt_or_ge m (2 ^ 1023) with hsmall | hlow
  · have hunits := rounded_le_double (m * oneUnits) 1
    rw [Nat.div_one] at hunits
    have hbound : (m + 1) * oneUnits ≤ 2 ^ 1023 * oneUnits :=
      Nat.mul_le_mul_right oneUnits (Nat.succ_le_of_lt hsmall)
    have hover := overflowUnits_half
    rw [Nat.succ_mul] at hbound
    have hone := oneUnits_pos
    generalize 2 ^ 1023 * oneUnits = half at hbound hover
    generalize oneUnits = one at hunits hbound hone ⊢
    exact iff_of_false (by omega) (Nat.not_le_of_lt (Nat.lt_of_lt_of_le hsmall hfirst))
  rcases Nat.lt_or_ge m (2 ^ 1024) with hhigh | hlarge
  · have hsteps : 2 ^ 1024 ≤ 2 ^ 53 * (2 * 2 ^ 970) := by decide +kernel
    have htop : m < 2 ^ 53 * (2 * 2 ^ 970) := Nat.lt_of_lt_of_le hhigh hsteps
    have hstep : 0 < 2 ^ 970 := by decide +kernel
    have hpos : 0 < 2 * 2 ^ 970 * oneUnits := by decide +kernel
    rw [rounded, Nat.div_one, Nat.one_mul, spacing_top hlow hhigh,
      divEven_mul_right oneUnits_pos, overflowUnits_steps, Nat.mul_le_mul_right_iff hpos]
    exact divEven_top hstep htop
  · have hne : m ≠ 0 := Nat.ne_of_gt (Nat.lt_of_lt_of_le (Nat.two_pow_pos _) hlarge)
    have hlog : 1024 ≤ m.log2 := (Nat.le_log2 hne).mpr hlarge
    have hlog' : (m * oneUnits).log2 = m.log2 + 1074 := by
      rw [oneUnits, log2_mul_two_pow hne]
    have hround := @le_rounded (m * oneUnits) (by omega)
    have hpow : 2 ^ 2098 ≤ 2 ^ (m * oneUnits).log2 :=
      Nat.pow_le_pow_right (by omega) (by omega)
    exact iff_of_true (Nat.le_trans hpow hround) (Nat.le_trans hfirst' hlarge)

end LinkShelf.Binary64

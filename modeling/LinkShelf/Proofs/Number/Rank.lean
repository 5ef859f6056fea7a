import LinkShelf.Proofs.Number.Exact
/-!
Where a double stands among all of them. Sums, differences and products of finite doubles are the
exact ones, rounded, so what holds between exact numbers holds between doubles, as long as it is not
strict.
-/
namespace LinkShelf.Binary64

variable {den u v : Nat} {m n : Int} {x y : Binary64} {s t : Bool}

/-- The units of the double nearest to so many, an infinity counting as the first number that is too
large. -/
def nearest (n : Int) (den : Nat) : Int :=
  signed (n < 0) (min (rounded n.natAbs den) overflowUnits)

/-- Where a double stands among all of them. -/
def rank : Binary64 → Int
  | .nan => 0
  | .infinite s => signed s overflowUnits
  | .finite s u => signed s u

/-- A finite double, as opposed to any count of units. -/
inductive Proper : Binary64 → Prop
  | finite (s : Bool) {u : Nat} (hdvd : spacing u ∣ u) (hlt : u < overflowUnits) :
    Proper (.finite s u)

/-- A double that is a number or an infinity. -/
inductive Ranked : Binary64 → Prop
  | infinite (s : Bool) : Ranked (.infinite s)
  | finite (s : Bool) {u : Nat} (h : u < overflowUnits) : Ranked (.finite s u)

theorem rank_finite (s : Bool) (u : Nat) : (finite s u).rank = signed s u := rfl

theorem rank_infinite (s : Bool) : (infinite s).rank = signed s overflowUnits := rfl

theorem signed_true (u : Nat) : signed true u = -(u : Int) := rfl

theorem signed_false (u : Nat) : signed false u = u := rfl

theorem Proper.ranked (h : x.Proper) : x.Ranked := by
  obtain ⟨s, -, hlt⟩ := h
  exact .finite s hlt

theorem nearest_mono (hd : 0 < den) (h : m ≤ n) : nearest m den ≤ nearest n den := by
  unfold nearest signed
  have hnonneg : 0 ≤ m → rounded m.natAbs den ≤ rounded n.natAbs den :=
    fun hm => rounded_mono hd (by omega)
  have hneg : n < 0 → rounded n.natAbs den ≤ rounded m.natAbs den :=
    fun hn => rounded_mono hd (by omega)
  generalize overflowUnits = most
  by_cases hm : m < 0 <;> by_cases hn : n < 0 <;> simp only [hm, hn, decide_true, decide_false,
    if_true, if_false, Bool.false_eq_true] <;> omega

theorem nearest_neg (n : Int) (den : Nat) : nearest (-n) den = -nearest n den := by
  unfold nearest signed
  rw [Int.natAbs_neg]
  rcases Int.lt_trichotomy n 0 with h | rfl | h
  · have hpos : ¬-n < 0 := by omega
    rw [decide_eq_true h, decide_eq_false hpos, if_pos rfl, if_neg Bool.false_ne_true, Int.neg_neg]
  · rw [Int.natAbs_zero, rounded_zero]
    simp
  · have hneg : -n < 0 := by omega
    have hpos : ¬n < 0 := by omega
    rw [decide_eq_true hneg, decide_eq_false hpos, if_pos rfl, if_neg Bool.false_ne_true]

theorem nearest_of_proper (hd : 0 < den) (h : x.Proper) : nearest (x.rank * den) den = x.rank := by
  cases h with
  | @finite s u hdvd hlt =>
    have hmin : min (rounded (u * den) den) overflowUnits = u := by
      rw [rounded_of_dvd hd hdvd]
      omega
    have hpos : nearest ((u : Int) * den) den = u := by
      have hsign : ¬(((u * den : Nat) : Int) < 0) := Int.not_lt.mpr (Int.natCast_nonneg _)
      rw [nearest, ← Int.natCast_mul, Int.natAbs_natCast, hmin, decide_eq_false hsign]
      rfl
    cases s with
    | false => exact hpos
    | true =>
      change nearest (-(u : Int) * den) den = -(u : Int)
      rw [Int.neg_mul, nearest_neg, hpos]

theorem Proper.nearest_rank (h : x.Proper) : nearest x.rank 1 = x.rank := by
  have hself := nearest_of_proper Nat.one_pos h
  rwa [Int.natCast_one, Int.mul_one] at hself

theorem signed_bounds (h : u < overflowUnits) (s : Bool) :
    -(overflowUnits : Int) < signed s u ∧ signed s u < overflowUnits := by
  unfold signed
  split <;> omega

/-- Comparing doubles is comparing where they stand. -/
theorem compare?_ranked (hx : x.Ranked) (hy : y.Ranked) :
    x.compare? y = some (compare x.rank y.rank) := by
  have hmost := overflowUnits_pos
  cases hx with
  | infinite s =>
    cases hy with
    | infinite t =>
      rw [rank_infinite, rank_infinite, Int.compare_eq_ite_lt]
      generalize overflowUnits = most at hmost ⊢
      have hneg : -(most : Int) < most := by omega
      have hpos : ¬(most : Int) < -most := by omega
      cases s <;> cases t <;> simp [compare?, signed, hneg, hpos] <;> rfl
    | finite t hv =>
      have hbounds := signed_bounds hv t
      rw [rank_infinite, rank_finite]
      cases s with
      | true =>
        rw [signed_true, Int.compare_eq_lt.mpr hbounds.1]
        rfl
      | false =>
        rw [signed_false, Int.compare_eq_gt.mpr hbounds.2]
        rfl
  | finite s hu =>
    have hbounds := signed_bounds hu s
    cases hy with
    | infinite t =>
      rw [rank_infinite, rank_finite]
      cases t with
      | true =>
        rw [signed_true, Int.compare_eq_gt.mpr hbounds.1]
        rfl
      | false =>
        rw [signed_false, Int.compare_eq_lt.mpr hbounds.2]
        rfl
    | finite t hv => rfl

theorem lt_iff (hx : x.Ranked) (hy : y.Ranked) : x.lt y = true ↔ x.rank < y.rank := by
  rw [lt, compare?_ranked hx hy, ← Int.compare_eq_lt]
  simp

theorem le_iff (hx : x.Ranked) (hy : y.Ranked) : x.le y = true ↔ x.rank ≤ y.rank := by
  rw [le, compare?_ranked hx hy, Int.le_iff_lt_or_eq, ← Int.compare_eq_lt, ← Int.compare_eq_eq]
  simp

theorem ranked_ofUnits (s : Bool) (num den : Nat) : (ofUnits s num den).Ranked := by
  rw [ofUnits_eq]
  split
  · rename_i hlt
    exact .finite s hlt
  · exact .infinite s

theorem rank_ofUnits (s : Bool) (num den : Nat) :
    (ofUnits s num den).rank = signed s (min (rounded num den) overflowUnits) := by
  rw [ofUnits_eq]
  split
  · rename_i hlt
    rw [Nat.min_eq_left (Nat.le_of_lt hlt)]
    rfl
  · rename_i hge
    rw [Nat.min_eq_right (Nat.not_lt.mp hge)]
    rfl

theorem nearest_zero (den : Nat) : nearest 0 den = 0 := by
  rw [nearest, Int.natAbs_zero, rounded_zero, Nat.zero_min]
  rfl

theorem ranked_ofSigned (z : Bool) (n : Int) (den : Nat) : (ofSigned z n den).Ranked := by
  unfold ofSigned
  split
  · exact .finite z overflowUnits_pos
  · exact ranked_ofUnits _ _ _

theorem rank_ofSigned (z : Bool) (n : Int) (den : Nat) :
    (ofSigned z n den).rank = nearest n den := by
  unfold ofSigned
  split
  · rename_i hzero
    rw [hzero, nearest_zero]
    cases z <;> rfl
  · exact rank_ofUnits _ _ _

/-- A finite double of so many units. -/
def At (x : Binary64) (n : Int) : Prop :=
  ∃ s u, x = .finite s u ∧ u < overflowUnits ∧ signed s u = n

theorem Ranked.at (h : x.Ranked) (hlow : -(overflowUnits : Int) < x.rank)
    (hhigh : x.rank < overflowUnits) : At x x.rank := by
  cases h with
  | infinite s =>
    rw [rank_infinite] at hlow hhigh
    cases s with
    | true => exact absurd hlow (Int.lt_irrefl _)
    | false => exact absurd hhigh (Int.lt_irrefl _)
  | @finite s u hu => exact ⟨s, u, rfl, hu, rfl⟩

theorem At.rank (h : At x n) : x.rank = n := by
  obtain ⟨s, u, rfl, -, rfl⟩ := h
  rfl

theorem At.ranked (h : At x n) : x.Ranked := by
  obtain ⟨s, u, rfl, hu, -⟩ := h
  exact .finite s hu

theorem Proper.at (h : x.Proper) : At x x.rank := by
  obtain ⟨s, -, hlt⟩ := h
  exact ⟨s, _, rfl, hlt, rfl⟩

theorem Proper.rank_bounds (h : x.Proper) :
    -(overflowUnits : Int) < x.rank ∧ x.rank < overflowUnits := by
  obtain ⟨s, -, hlt⟩ := h
  exact signed_bounds hlt s

/-- A sum is the exact one, rounded. -/
theorem At.add (hx : At x m) (hy : At y n) :
    (x.add y).Ranked ∧ (x.add y).rank = nearest (m + n) 1 := by
  obtain ⟨s, u, rfl, -, rfl⟩ := hx
  obtain ⟨t, v, rfl, -, rfl⟩ := hy
  exact ⟨ranked_ofSigned _ _ _, rank_ofSigned _ _ _⟩

theorem At.sub (hx : At x m) (hy : At y n) :
    (x.sub y).Ranked ∧ (x.sub y).rank = nearest (m - n) 1 := by
  obtain ⟨t, v, rfl, hv, rfl⟩ := hy
  have hneg : At (finite t v).neg (-signed t v) := by
    refine ⟨!t, v, rfl, hv, ?_⟩
    cases t with
    | false => rfl
    | true => exact (Int.neg_neg _).symm
  exact Int.sub_eq_add_neg ▸ hx.add hneg

theorem signed_mul (s t : Bool) (u v : Nat) :
    signed s u * signed t v = signed (s != t) (u * v) := by
  cases s <;> cases t <;> simp [signed, Int.mul_neg, Int.neg_mul]

theorem ranked_mul (s t : Bool) (u v : Nat) : ((finite s u).mul (finite t v)).Ranked := by
  rw [mul]
  split
  · exact .finite _ overflowUnits_pos
  · exact ranked_ofUnits _ _ _

theorem rank_mul (s t : Bool) (u v : Nat) :
    ((finite s u).mul (finite t v)).rank = nearest (signed (s != t) (u * v)) oneUnits := by
  rw [mul]
  split
  · rename_i hzero
    rw [hzero]
    cases s <;> cases t <;> exact (nearest_zero _).symm
  · rename_i hne
    rw [rank_ofUnits]
    cases s != t with
    | false =>
      have hsign : ¬(((u * v : Nat) : Int) < 0) := Int.not_lt.mpr (Int.natCast_nonneg _)
      simp only [nearest, signed, Bool.false_eq_true, if_false, decide_eq_false hsign,
        Int.natAbs_natCast]
    | true =>
      have hsign : -((u * v : Nat) : Int) < 0 := by omega
      simp only [nearest, signed, if_true, decide_eq_true hsign, Int.natAbs_neg,
        Int.natAbs_natCast]

/-- A product is the exact one, rounded. -/
theorem At.mul (hx : At x m) (hy : At y n) :
    (x.mul y).Ranked ∧ (x.mul y).rank = nearest (m * n) oneUnits := by
  obtain ⟨s, u, rfl, -, rfl⟩ := hx
  obtain ⟨t, v, rfl, -, rfl⟩ := hy
  exact ⟨ranked_mul s t u v, signed_mul s t u v ▸ rank_mul s t u v⟩

end LinkShelf.Binary64

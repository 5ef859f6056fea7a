import Mathlib.Algebra.Order.Floor.Ring
import Mathlib.Data.Rat.Floor
import Mathlib.Tactic.Linarith
import Mathlib.Tactic.Positivity
import Mathlib.Tactic.Ring
import LinkShelf.Model.Client
import LinkShelf.Proofs.Number.Rank
/-!
How long a wait is. The limit is taken before the clock moves the wait, so a wait may exceed it by a
twentieth, in the first half of each second of the clock only. This holds of exact numbers, and of
doubles as well, where the longest wait is the limit moved at a full second.
-/
namespace LinkShelf

/-- Exact numbers, of which none is too large. -/
instance : Reckoning ℚ where
  whole n := .ok n
  zero := 0
  half := 1 / 2
  tenth := 1 / 10
  add x y := x + y
  sub x y := x - y
  mul x y := x * y
  modOne := Int.fract
  lt x y := decide (x < y)

namespace Pace

section Exact

variable {p : Pace ℚ} {n : Nat} {time : ℚ}

/-- The wait before the clock moves it. -/
def capped (p : Pace ℚ) (n : Nat) : ℚ := min (p.base * 2 ^ n) p.max

/-- What the clock makes of a second: from a twentieth more down to a twentieth less. -/
def shift (time : ℚ) : ℚ := 21 / 20 - Int.fract time / 10

theorem shift_bounds (time : ℚ) : 19 / 20 < shift time ∧ shift time ≤ 21 / 20 := by
  have hlow := Int.fract_nonneg time
  have hhigh := Int.fract_lt_one time
  unfold shift
  constructor <;> linarith

theorem shift_le_one : shift time ≤ 1 ↔ 1 / 2 ≤ Int.fract time := by
  unfold shift
  constructor <;> intro h <;> linarith

theorem capped_nonneg (hbase : 0 ≤ p.base) (hmax : 0 ≤ p.max) (n : Nat) : 0 ≤ p.capped n :=
  le_min (mul_nonneg hbase (by positivity)) hmax

theorem delay_exact (hbase : 0 ≤ p.base) (hmax : 0 ≤ p.max) (n : Nat) (time : ℚ) :
    p.delay n time = .ok (p.capped n * shift time) := by
  have hcapped : (if p.max < p.base * 2 ^ n then p.max else p.base * 2 ^ n) = p.capped n := by
    split
    · rename_i h
      exact (min_eq_right (le_of_lt h)).symm
    · rename_i h
      exact (min_eq_left (not_lt.mp h)).symm
  have hmoved : p.capped n + p.capped n * (1 / 10) * (1 / 2 - Int.fract time) =
      p.capped n * shift time := by
    unfold shift
    ring
  have hnonneg : ¬p.capped n * shift time < 0 := by
    have := mul_nonneg (capped_nonneg hbase hmax n)
      (by linarith [(shift_bounds time).1] : 0 ≤ shift time)
    linarith
  simp only [delay, Reckoning.whole, Reckoning.zero, Reckoning.half, Reckoning.tenth,
    Reckoning.add, Reckoning.sub, Reckoning.mul, Reckoning.modOne, Reckoning.lt, bind, Except.bind,
    pure, Except.pure, Nat.cast_pow, Nat.cast_ofNat, decide_eq_true_eq, hcapped, hmoved,
    if_neg hnonneg]

/-- A wait keeps to the limit unless it comes near it and the clock is in the first half of a
second. -/
theorem exact_le_max_iff (hbase : 0 ≤ p.base) (hmax : 0 ≤ p.max) :
    p.capped n * shift time ≤ p.max ↔
      p.max = 0 ∨ 1 / 2 ≤ Int.fract time ∨ p.base * 2 ^ n * shift time ≤ p.max := by
  have hpos : 0 < shift time := lt_trans (by norm_num) (shift_bounds time).1
  have hcapped := capped_nonneg hbase hmax n
  have hle : p.capped n ≤ p.max := min_le_right _ _
  constructor
  · intro h
    by_contra hnot
    simp only [not_or, not_le] at hnot
    obtain ⟨hne, hearly, hgrown⟩ := hnot
    have hmore : 1 < shift time := not_le.mp fun hless => not_le.mpr hearly (shift_le_one.mp hless)
    rcases min_choice (p.base * 2 ^ n) p.max with hmin | hmin
    · rw [capped, hmin] at h
      exact absurd h (not_le.mpr hgrown)
    · rw [capped, hmin] at h
      have hlimit : 0 < p.max := lt_of_le_of_ne hmax (Ne.symm hne)
      have hover := mul_lt_mul_of_pos_left hmore hlimit
      linarith
  · rintro (hzero | hlate | hgrown)
    · have hnone : p.capped n = 0 := le_antisymm (hzero ▸ hle) hcapped
      rw [hnone, zero_mul]
      exact hmax
    · have hless := mul_le_mul_of_nonneg_left (shift_le_one.mpr hlate) hcapped
      linarith
    · have hless := mul_le_mul_of_nonneg_right (min_le_left (p.base * 2 ^ n) p.max) hpos.le
      exact le_trans hless hgrown

theorem exact_bounds (hbase : 0 ≤ p.base) (hmax : 0 ≤ p.max) :
    0 ≤ p.capped n * shift time ∧ p.capped n * shift time ≤ 21 / 20 * p.max := by
  obtain ⟨hlow, hhigh⟩ := shift_bounds time
  have hcapped := capped_nonneg hbase hmax n
  have hle : p.capped n ≤ p.max := min_le_right _ _
  have hshift := mul_le_mul_of_nonneg_left hhigh hcapped
  exact ⟨mul_nonneg hcapped (by linarith), by linarith⟩

end Exact

section Doubles

open Binary64

variable {p : Pace Binary64} {n : Nat} {time d x y shown : Binary64} {a f m : Int}

/-- A finite double that is not below zero. -/
def IsLength (x : Binary64) : Prop := x.Proper ∧ Binary64.zero.le x = true

/-- A wait as the clock moves it. -/
def moved (x shown : Binary64) : Binary64 :=
  x.add ((x.mul Client.tenth).mul (Client.half.sub shown))

theorem ranked_zero : Binary64.zero.Ranked := .finite _ overflowUnits_pos

theorem at_zero : At .zero 0 := ⟨false, 0, rfl, overflowUnits_pos, rfl⟩

theorem IsLength.rank_nonneg (h : IsLength x) : 0 ≤ x.rank :=
  (le_iff ranked_zero h.1.ranked).mp h.2

theorem two_mul_units : 2 * 2 ^ 1073 = oneUnits := by
  rw [← Nat.pow_succ', oneUnits]

theorem half_eq : Client.half = .finite false (2 ^ 1073) := by decide +kernel

theorem proper_half : Client.half.Proper := by
  have hle : 2 ^ 1073 ≤ oneUnits := two_mul_units ▸ Nat.le_mul_of_pos_left _ Nat.two_pos
  rw [half_eq]
  exact .finite false (spacing_two_pow_dvd 1073) (Nat.lt_of_le_of_lt hle one_lt_overflow)

theorem two_mul_half : 2 * Client.half.rank = (oneUnits : Nat) := by
  rw [half_eq, rank_finite, signed_false, ← two_mul_units, Int.natCast_mul]
  rfl

theorem tenth_le : rounded oneUnits 10 ≤ oneUnits := by
  have hmono : rounded oneUnits 10 ≤ rounded (oneUnits * 10) 10 :=
    rounded_mono (by decide) (Nat.le_mul_of_pos_right _ (by decide))
  rwa [rounded_of_dvd (by decide) spacing_oneUnits] at hmono

theorem tenth_at : At Client.tenth (rounded oneUnits 10) :=
  ⟨false, rounded oneUnits 10, by decide +kernel, Nat.lt_of_le_of_lt tenth_le one_lt_overflow, rfl⟩

/-- What the clock shows of a second. -/
theorem exists_modOne_at (h : time.Proper) :
    ∃ shown, At time.modOne shown ∧ 0 ≤ shown ∧ shown ≤ 2 * Client.half.rank := by
  rw [two_mul_half]
  cases h with
  | @finite s u =>
    rw [modOne]
    split
    · have hle : rounded (oneUnits - u % oneUnits) 1 ≤ oneUnits := by
        have hmono := rounded_mono Nat.one_pos (Nat.sub_le oneUnits (u % oneUnits))
        have hone := rounded_of_dvd Nat.one_pos spacing_oneUnits
        rw [Nat.mul_one] at hone
        rwa [hone] at hmono
      have hlt := Nat.lt_of_le_of_lt hle one_lt_overflow
      rw [ofUnits_eq, if_pos hlt]
      exact ⟨_, ⟨false, _, rfl, hlt, rfl⟩, Int.natCast_nonneg _, Int.ofNat_le.mpr hle⟩
    · have hle := Nat.le_of_lt (Nat.mod_lt u oneUnits_pos)
      have hlt := Nat.lt_of_le_of_lt hle one_lt_overflow
      exact ⟨_, ⟨false, _, rfl, hlt, rfl⟩, Int.natCast_nonneg _, Int.ofNat_le.mpr hle⟩

/-- The wait before the clock moves it is a length up to the limit. -/
theorem exists_capped_at {factor : Binary64} {k : Int} (hbase : IsLength p.base)
    (hmax : IsLength p.max) (hfactor : At factor k) (hk : 0 ≤ k) :
    ∃ a, At (if p.max.lt (p.base.mul factor) then p.max else p.base.mul factor) a ∧
      0 ≤ a ∧ a ≤ p.max.rank := by
  obtain ⟨hranked, hrank⟩ := hbase.1.at.mul hfactor
  split
  · exact ⟨_, hmax.1.at, hmax.rank_nonneg, le_refl _⟩
  · rename_i hlt
    rw [lt_iff hmax.1.ranked hranked, not_lt] at hlt
    have hnonneg : 0 ≤ (p.base.mul factor).rank := by
      rw [hrank, ← nearest_zero oneUnits]
      exact nearest_mono oneUnits_pos (mul_nonneg hbase.rank_nonneg hk)
    have hmost := hmax.1.rank_bounds.2
    have hfirst := overflowUnits_pos
    exact ⟨_, hranked.at (by omega) (lt_of_le_of_lt hlt hmost), hnonneg, hlt⟩

theorem half_rank_nonneg : 0 ≤ Client.half.rank := by
  rw [half_eq]
  exact Int.natCast_nonneg _

theorem second_nonneg : 0 ≤ 2 * Client.half.rank := mul_nonneg zero_le_two half_rank_nonneg

/-- The share of a length that the clock may move, in units. -/
def share (a : Int) : Int := nearest (a * rounded oneUnits 10) oneUnits

/-- What is left of half a second after so much of it, in units. -/
def left (f : Int) : Int := nearest (Client.half.rank - f) 1

/-- How far a length is moved, in units. -/
def jitter (a f : Int) : Int := nearest (share a * left f) oneUnits

theorem share_bounds (ha : 0 ≤ a) (hy : y.Proper) (hle : a ≤ y.rank) :
    0 ≤ share a ∧ share a ≤ y.rank := by
  constructor
  · rw [share, ← nearest_zero oneUnits]
    exact nearest_mono oneUnits_pos (Int.mul_nonneg ha (Int.natCast_nonneg _))
  · rw [share, ← nearest_of_proper oneUnits_pos hy]
    exact nearest_mono oneUnits_pos
      (Int.mul_le_mul hle (Int.ofNat_le.mpr tenth_le) (Int.natCast_nonneg _) (Int.le_trans ha hle))

theorem left_zero : left 0 = Client.half.rank := by
  rw [left, Int.sub_zero]
  exact proper_half.nearest_rank

theorem left_bounds (hlow : 0 ≤ f) (hhigh : f ≤ 2 * Client.half.rank) :
    -Client.half.rank ≤ left f ∧ left f ≤ Client.half.rank := by
  rw [← left_zero, left, left, ← nearest_neg]
  exact ⟨nearest_mono Nat.one_pos (by omega), nearest_mono Nat.one_pos (by omega)⟩

theorem left_nonpos (h : Client.half.rank ≤ f) : left f ≤ 0 := by
  rw [left, ← nearest_zero 1]
  exact nearest_mono Nat.one_pos (by omega)

theorem jitter_le (ha : 0 ≤ share a) (hle : a ≤ m) (hlow : 0 ≤ f)
    (hhigh : f ≤ 2 * Client.half.rank) : jitter a f ≤ jitter m 0 := by
  have hshare : share a ≤ share m :=
    nearest_mono oneUnits_pos (Int.mul_le_mul_of_nonneg_right hle (Int.natCast_nonneg _))
  rw [jitter, jitter, left_zero]
  exact nearest_mono oneUnits_pos <| calc
    share a * left f ≤ share a * Client.half.rank :=
      Int.mul_le_mul_of_nonneg_left (left_bounds hlow hhigh).2 ha
    _ ≤ share m * Client.half.rank := Int.mul_le_mul_of_nonneg_right hshare half_rank_nonneg

theorem jitter_nonpos (ha : 0 ≤ share a) (h : Client.half.rank ≤ f) : jitter a f ≤ 0 := by
  rw [jitter, ← nearest_zero oneUnits]
  exact nearest_mono oneUnits_pos (Int.mul_nonpos_of_nonneg_of_nonpos ha (left_nonpos h))

/-- A length is moved by less than itself, so the way is no infinity. -/
theorem jitter_bounds (ha : 0 ≤ a) (hy : y.Proper) (hle : a ≤ y.rank) (hlow : 0 ≤ f)
    (hhigh : f ≤ 2 * Client.half.rank) :
    -y.rank ≤ jitter a f ∧ jitter a f ≤ y.rank := by
  obtain ⟨hshare, hmost⟩ := share_bounds ha hy hle
  obtain ⟨hleft, hright⟩ := left_bounds hlow hhigh
  have hhalf := half_rank_nonneg
  have hwhole : Client.half.rank ≤ 2 * Client.half.rank := by omega
  rw [two_mul_half] at hwhole
  have hup : share a * left f ≤ y.rank * (oneUnits : Nat) := calc
    share a * left f ≤ share a * Client.half.rank := Int.mul_le_mul_of_nonneg_left hright hshare
    _ ≤ y.rank * (oneUnits : Nat) :=
      Int.mul_le_mul hmost hwhole hhalf (Int.le_trans hshare hmost)
  have hdown : -(y.rank * (oneUnits : Nat)) ≤ share a * left f := calc
    -(y.rank * (oneUnits : Nat)) ≤ -(share a * Client.half.rank) := Int.neg_le_neg
      (Int.mul_le_mul hmost hwhole hhalf (Int.le_trans hshare hmost))
    _ = share a * -Client.half.rank := (Int.mul_neg ..).symm
    _ ≤ share a * left f := Int.mul_le_mul_of_nonneg_left hleft hshare
  rw [jitter, ← nearest_of_proper oneUnits_pos hy, ← nearest_neg]
  exact ⟨nearest_mono oneUnits_pos hdown, nearest_mono oneUnits_pos hup⟩

/-- No step on the way is rounded to an infinity. -/
theorem moved_at (hx : At x a) (ha : 0 ≤ a) (hy : y.Proper) (hle : a ≤ y.rank)
    (hf : At shown f) (hlow : 0 ≤ f) (hhigh : f ≤ 2 * Client.half.rank) :
    (moved x shown).Ranked ∧ (moved x shown).rank = nearest (a + jitter a f) 1 := by
  obtain ⟨-, hlimit⟩ := hy.rank_bounds
  have hshare : At (x.mul Client.tenth) (share a) := by
    obtain ⟨hranked, hrank⟩ := hx.mul tenth_at
    obtain ⟨hmin, hmax⟩ := share_bounds ha hy hle
    have hfirst := overflowUnits_pos
    rw [← share] at hrank
    exact hrank ▸ hranked.at (by omega) (by omega)
  have hleft : At (Client.half.sub shown) (left f) := by
    obtain ⟨hranked, hrank⟩ := proper_half.at.sub hf
    obtain ⟨hmin, hmax⟩ := left_bounds hlow hhigh
    obtain ⟨-, hhalf⟩ := proper_half.rank_bounds
    rw [← left] at hrank
    exact hrank ▸ hranked.at (by omega) (by omega)
  have hjitter : At ((x.mul Client.tenth).mul (Client.half.sub shown)) (jitter a f) := by
    obtain ⟨hranked, hrank⟩ := hshare.mul hleft
    obtain ⟨hmin, hmax⟩ := jitter_bounds ha hy hle hlow hhigh
    rw [← jitter] at hrank
    exact hrank ▸ hranked.at (by omega) (by omega)
  exact hx.add hjitter

/-- Nothing moves a length further up than a full second, and the second half of one moves none
up. -/
theorem moved_bounds (hx : At x a) (ha : 0 ≤ a) (hy : y.Proper) (hle : a ≤ y.rank)
    (hf : At shown f) (hlow : 0 ≤ f) (hhigh : f ≤ 2 * Client.half.rank) :
    (moved x shown).rank ≤ (moved y .zero).rank ∧
      (Client.half.rank ≤ f → (moved x shown).rank ≤ y.rank) := by
  obtain ⟨hmin, -⟩ := share_bounds ha hy hle
  obtain ⟨-, hrank⟩ := moved_at hx ha hy hle hf hlow hhigh
  obtain ⟨-, hlongest⟩ :=
    moved_at hy.at (Int.le_trans ha hle) hy (Int.le_refl _) at_zero (Int.le_refl 0) second_nonneg
  rw [hrank, hlongest]
  constructor
  · exact nearest_mono Nat.one_pos (Int.add_le_add hle (jitter_le hmin hle hlow hhigh))
  · intro hlate
    rw [← hy.nearest_rank]
    exact nearest_mono Nat.one_pos
      (Int.le_trans (Int.add_le_add hle (jitter_nonpos hmin hlate)) (Int.add_zero _).le)

theorem exists_whole_at {k : Nat} {factor : Binary64}
    (h : Reckoning.whole k = .ok factor) : ∃ u, At factor u ∧ 0 ≤ u := by
  change Json.wholeAsReal k = .ok factor at h
  have hsign : ¬(k : Int) < 0 := Int.not_lt.mpr (Int.natCast_nonneg k)
  rw [Json.wholeAsReal, ofInt?, decide_eq_false hsign, ofRatio, ofUnits_eq] at h
  split at h
  · rename_i hlt
    cases h
    exact ⟨_, ⟨false, _, rfl, hlt, rfl⟩, Int.natCast_nonneg _⟩
  · cases h

theorem cut_ranked (h : x.Ranked) : (if x.lt .zero then .zero else x).Ranked := by
  split
  · exact ranked_zero
  · exact h

theorem cut_bounds (h : x.Ranked) (hle : x.rank ≤ m) (hm : 0 ≤ m) :
    0 ≤ (if x.lt .zero then .zero else x).rank ∧ (if x.lt .zero then .zero else x).rank ≤ m := by
  split
  · exact ⟨le_refl 0, hm⟩
  · rename_i hlt
    rw [lt_iff h ranked_zero, not_lt] at hlt
    exact ⟨hlt, hle⟩

/-- At a full second the limit is moved up, if at all. -/
theorem longest_nonneg (hy : IsLength y) :
    (moved y .zero).Ranked ∧ 0 ≤ (moved y .zero).rank := by
  have hrank := hy.rank_nonneg
  obtain ⟨hranked, heq⟩ :=
    moved_at hy.1.at hrank hy.1 (le_refl _) at_zero (le_refl 0) second_nonneg
  refine ⟨hranked, ?_⟩
  have hjitter : 0 ≤ jitter y.rank 0 := by
    rw [jitter, left_zero, ← nearest_zero oneUnits]
    exact nearest_mono oneUnits_pos
      (mul_nonneg (share_bounds hrank hy.1 (le_refl _)).1 half_rank_nonneg)
  have hsum := nearest_mono Nat.one_pos (add_nonneg hrank hjitter)
  rwa [nearest_zero, ← heq] at hsum

/-- A wait keeps to what the limit is moved to at a full second, and to the limit itself in the
second half of one. -/
theorem delay_bounds (hbase : IsLength p.base) (hmax : IsLength p.max) (htime : time.Proper)
    (h : p.delay n time = .ok d) :
    Binary64.zero.le d = true ∧ d.le (moved p.max .zero) = true ∧
      (Client.half.le time.modOne = true → d.le p.max = true) := by
  unfold delay at h
  obtain ⟨factor, hfactor, h⟩ := bind_eq_ok.mp h
  obtain ⟨k, hk, hk0⟩ := exists_whole_at hfactor
  obtain ⟨a, ha, ha0, hle⟩ := exists_capped_at hbase hmax hk hk0
  obtain ⟨f, hf, hf0, hf1⟩ := exists_modOne_at htime
  generalize hx : (if p.max.lt (p.base.mul factor) then p.max else p.base.mul factor) = x at ha
  have hd : (if (moved x time.modOne).lt .zero then .zero else moved x time.modOne) = d := by
    rw [← hx]
    exact Except.ok.inj h
  obtain ⟨hmoved, -⟩ := moved_at ha ha0 hmax.1 hle hf hf0 hf1
  obtain ⟨hlongest, hlate⟩ := moved_bounds ha ha0 hmax.1 hle hf hf0 hf1
  obtain ⟨hranked, hnonneg⟩ := longest_nonneg hmax
  have hcut := cut_ranked hmoved
  have hbounds := cut_bounds hmoved hlongest hnonneg
  have hkept := fun hhalf => (cut_bounds hmoved (hlate hhalf) hmax.rank_nonneg).2
  rw [hd] at hcut hbounds hkept
  rw [le_iff ranked_zero hcut, le_iff hcut hranked, le_iff proper_half.ranked hf.ranked, hf.rank,
    le_iff hcut hmax.1.ranked]
  exact ⟨hbounds.1, hbounds.2, hkept⟩

end Doubles

end Pace

end LinkShelf

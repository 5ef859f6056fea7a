import LinkShelf.Time.Iso
import LinkShelf.Proofs.Number.Exact
import LinkShelf.Proofs.Text.Trim
import Mathlib.Logic.Basic
/-!
How far from 1970 a text can lie. Years, clock times and offsets are bounded, so the seconds of an
instant that was read are always a finite double.
-/
namespace LinkShelf.Iso

variable {cs rest : List Char} {n width : Nat}

theorem digits?_spec {ds : List Nat} (h : digits? width cs = some (ds, rest)) :
    ds.length = width ∧ ∀ d ∈ ds, d ≤ 9 := by
  induction width generalizing cs ds with
  | zero =>
    cases h
    simp
  | succ width ih =>
    cases cs with
    | nil => cases h
    | cons c cs =>
      rw [digits?] at h
      split at h
      · obtain ⟨⟨ds', rest'⟩, hds, heq⟩ := Option.map_eq_some_iff.mp h
        cases heq
        obtain ⟨hlength, hall⟩ := ih hds
        refine ⟨congrArg (· + 1) hlength, ?_⟩
        intro d hd
        rcases List.mem_cons.mp hd with rfl | hd
        · have := Text.digit_bounds ‹_›
          omega
        · exact hall d hd
      · cases h

theorem ofDigits_lt (ds : List Nat) (h : ∀ d ∈ ds, d ≤ 9) :
    Text.ofDigits 10 ds < 10 ^ ds.length := by
  have hfold : ∀ n, ds.foldl (fun n d => n * 10 + d) n < (n + 1) * 10 ^ ds.length := by
    induction ds with
    | nil => simp
    | cons d ds ih =>
      intro n
      have hd := h d (by simp)
      have hrest := ih (fun x hx => h x (by simp [hx])) (n * 10 + d)
      calc (d :: ds).foldl (fun n d => n * 10 + d) n
          < (n * 10 + d + 1) * 10 ^ ds.length := hrest
        _ ≤ ((n + 1) * 10) * 10 ^ ds.length := Nat.mul_le_mul_right _ (by omega)
        _ = (n + 1) * 10 ^ (ds.length + 1) := by rw [Nat.pow_succ', Nat.mul_assoc]
  simpa [Text.ofDigits] using hfold 0

theorem number?_lt (h : number? width cs = some (n, rest)) : n < 10 ^ width := by
  obtain ⟨⟨ds, rest'⟩, hds, heq⟩ := Option.map_eq_some_iff.mp h
  cases heq
  obtain ⟨hlength, hall⟩ := digits?_spec hds
  rw [← hlength]
  exact ofDigits_lt ds hall

section Clock

variable {t t' : Clock} {whole : Bool} {after : Char}

theorem fraction?_micros (h : fraction? t cs after = some (t', whole)) : t'.micros < 10 ^ 6 := by
  obtain ⟨⟨n, rest⟩, hn, heq⟩ := Option.bind_eq_some_iff.mp h
  cases heq
  have hlt := number?_lt hn
  have hwidth : min cs.length 6 ≤ 6 := Nat.min_le_right ..
  calc n * 10 ^ (6 - min cs.length 6)
      < 10 ^ min cs.length 6 * 10 ^ (6 - min cs.length 6) :=
        Nat.mul_lt_mul_of_pos_right hlt (Nat.pow_pos (by decide))
    _ = 10 ^ 6 := by rw [← Nat.pow_add, Nat.add_sub_cancel' hwidth]

theorem put_micros (t : Clock) (i n : Nat) : (t.put i n).micros = t.micros := by
  unfold Clock.put
  split <;> rfl

theorem clockFrom_micros {separated : Bool} {left i : Nat} (ht : t.micros < 10 ^ 6)
    (h : clockFrom separated after left i t cs = some (t', whole)) : t'.micros < 10 ^ 6 := by
  induction left generalizing separated i t cs with
  | zero => exact fraction?_micros h
  | succ left ih =>
    obtain ⟨⟨n, rest⟩, -, h⟩ := Option.bind_eq_some_iff.mp h
    have hput : (t.put i n).micros < 10 ^ 6 := by rwa [put_micros]
    simp only at h
    rcases ite_eq_iff.mp h with ⟨-, h⟩ | ⟨-, h⟩
    · cases h
      exact hput
    rcases ite_eq_iff.mp h with ⟨-, h⟩ | ⟨-, h⟩
    · exact ih hput h
    rcases ite_eq_iff.mp h with ⟨-, h⟩ | ⟨-, h⟩
    · exact fraction?_micros h
    rcases ite_eq_iff.mp h with ⟨-, h⟩ | ⟨-, h⟩
    · cases h
    · exact ih hput h

theorem clock?_micros (h : clock? cs after = some (t, whole)) : t.micros < 10 ^ 6 :=
  clockFrom_micros (by decide) h

theorem offset?_lt {negative : Bool} {offset : Int} (h : offset? negative cs = some offset) :
    offset.natAbs < 86400 * 10 ^ 6 := by
  obtain ⟨⟨t, whole⟩, -, h⟩ := Option.bind_eq_some_iff.mp h
  simp only at h
  split at h
  · cases h
  split at h
  · cases h
    decide
  split at h
  · cases h
    split <;> omega
  · cases h

theorem time?_lt {offset : Int} (h : time? cs = some (t, offset)) :
    t.micros < 10 ^ 6 ∧ offset.natAbs < 86400 * 10 ^ 6 := by
  unfold time? at h
  simp only at h
  split at h
  · obtain ⟨⟨t', whole⟩, ht, h⟩ := Option.bind_eq_some_iff.mp h
    simp only at h
    split at h
    · cases h
      exact ⟨clock?_micros ht, by decide⟩
    · cases h
  · obtain ⟨⟨t', whole⟩, ht, h⟩ := Option.bind_eq_some_iff.mp h
    simp only at h
    split at h
    · split at h
      · cases h
        exact ⟨clock?_micros ht, by decide⟩
      · cases h
    · obtain ⟨offset', hoffset, h⟩ := Option.bind_eq_some_iff.mp h
      cases h
      exact ⟨clock?_micros ht, offset?_lt hoffset⟩

end Clock

/-- The day of a valid date is one of the first ten thousand years. -/
theorem dayNumber_lt {d : Date} (h : d.Valid) : d.dayNumber < 4000000 := by
  obtain ⟨-, hyear, -, -, -, hday⟩ := h
  have hmonth : Date.daysInMonth d.year d.month ≤ 31 := by
    unfold Date.daysInMonth
    split <;> split <;> omega
  simp only [Date.dayNumber]
  split <;> omega

theorem ofClock_lt {d : Date} {t : Clock} {offset : Int} (hd : d.Valid)
    (hclock : t.hour < 24 ∧ t.minute < 60 ∧ t.second < 60)
    (ht : t.micros < 10 ^ 6 ∧ offset.natAbs < 86400 * 10 ^ 6) :
    (Instant.ofClock d t.secondOfDay t.micros offset).micros.natAbs < 2 ^ 64 := by
  have hday := dayNumber_lt hd
  simp only [Instant.ofClock, Instant.secondsPerDay, Date.epoch, Clock.secondOfDay]
  omega

theorem instant?_lt {i : Instant} (h : instant? cs = some i) : i.micros.natAbs < 2 ^ 64 := by
  unfold instant? at h
  split at h
  · cases h
  obtain ⟨length, -, h⟩ := Option.bind_eq_some_iff.mp h
  obtain ⟨d, -, h⟩ := Option.bind_eq_some_iff.mp h
  split at h
  · rcases ite_eq_iff.mp h with ⟨hvalid, h⟩ | ⟨-, h⟩
    · cases h
      exact ofClock_lt hvalid.1 hvalid.2 (by decide)
    · cases h
  · obtain ⟨⟨t, offset⟩, htime, h⟩ := Option.bind_eq_some_iff.mp h
    rcases ite_eq_iff.mp h with ⟨hvalid, h⟩ | ⟨-, h⟩
    · cases h
      exact ofClock_lt hvalid.1 hvalid.2 (time?_lt htime)
    · cases h

end LinkShelf.Iso

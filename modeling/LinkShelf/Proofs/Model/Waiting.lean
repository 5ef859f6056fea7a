import LinkShelf.Proofs.Model.Pace
/-!
What is waited in a whole run of tries. Each wait is the one that the pace makes of the number of
the try and of what the clock shows then, whatever the tries are met with.
-/
namespace LinkShelf.Client

open LinkShelf.Act

section Run

variable {τ : Type} [Reckoning τ] {c : Client} {p : Pace τ} {r : Request} {n left : Nat}
  {w t u : Wire τ} {time : τ}

/-- Nothing is waited by sending a request or by counting a failure. -/
structure Unwaited (w t : Wire τ) : Prop where
  waits : t.waits = w.waits
  clock : t.clock = w.clock

/-- The tries from the `n`-th on have waited at their pace, no more often than tries were left. -/
def Waited (p : Pace τ) (n left : Nat) (w t : Wire τ) : Prop :=
  ∃ times, t.waits = w.waits ++ times ∧ times.length ≤ left ∧
    ∀ i (h : i < times.length), p.delay (n + i) (w.clock (w.waits.length + i)) = .ok times[i]

omit [Reckoning τ] in
theorem Unwaited.countError (h : Unwaited w t) : Unwaited w t.countError := ⟨h.waits, h.clock⟩

theorem Unwaited.waited (h : Unwaited w t) : Waited p n left w t :=
  ⟨[], by rw [h.waits, List.append_nil], Nat.zero_le left, nofun⟩

/-- One more wait comes before those of the tries after it. -/
theorem Waited.succ (h : Unwaited w t) (hdelay : p.delay n (w.clock w.waits.length) = .ok time)
    (hrest : Waited p (n + 1) left (t.wait time) u) : Waited p n (left + 1) w u := by
  obtain ⟨times, hwaits, hlength, htimes⟩ := hrest
  have hbefore : (t.wait time).waits = w.waits ++ [time] := by
    rw [Wire.wait, h.waits]
  have hclock : (t.wait time).clock = w.clock := h.clock
  rw [hbefore, List.append_assoc] at hwaits
  refine ⟨time :: times, hwaits, Nat.succ_le_succ hlength, fun i hi => ?_⟩
  cases i with
  | zero => exact hdelay
  | succ i =>
    have hnext := htimes i (Nat.lt_of_succ_lt_succ hi)
    rw [hbefore, hclock, List.length_append, List.length_singleton] at hnext
    rw [show n + (i + 1) = n + 1 + i by omega,
      show w.waits.length + (i + 1) = w.waits.length + 1 + i by omega]
    exact hnext

omit [Reckoning τ] in
theorem ends_send_unwaited (r : Request) (w : Wire τ) :
    Ends (Wire.send r) w (fun _ t => Unwaited w t) (fun _ t => Unwaited w t) := by
  unfold Wire.send
  rw [ends_modify_bind]
  split
  · exact ⟨rfl, rfl⟩
  · rw [ends_get_bind, ends_set_bind]
    exact ends_lift (fun _ _ => ⟨rfl, rfl⟩) fun _ _ => ⟨rfl, rfl⟩

omit [Reckoning τ] in
theorem ends_attempt_unwaited (c : Client) (r : Request) (w : Wire τ) :
    Ends (c.attempt r) w (fun _ t => Unwaited w t) (fun _ t => Unwaited w t) :=
  (ends_send_unwaited r w).bind fun _ _ h => ends_lift (fun _ _ => h) fun _ _ => h

/-- By induction on the tries that are left, each of which waits once at most. -/
theorem ends_tryFrom_waited (c : Client) (p : Pace τ) (r : Request) (n left : Nat) (w : Wire τ) :
    Ends (c.tryFrom p r n left) w (fun _ t => Waited p n left w t)
      (fun _ t => Waited p n left w t) := by
  induction left generalizing n w with
  | zero =>
    rw [tryFrom]
    refine ((ends_attempt_unwaited c r w).mono (fun _ _ h => h.waited) fun _ _ h => h).tryCatch ?_
    intro f t ht
    cases hc : concerns f with
    | false => exact ends_throw.mpr ht.waited
    | true => exact ht.countError.waited
  | succ left ih =>
    rw [tryFrom]
    refine ((ends_attempt_unwaited c r w).mono (fun _ _ h => h.waited) fun _ _ h => h).tryCatch ?_
    intro f t ht
    dsimp only
    cases hc : concerns f with
    | false => exact ends_throw.mpr ht.waited
    | true =>
      simp only [Bool.not_true, Bool.false_eq_true, if_false, ends_modify_bind]
      cases hp : mayPass f with
      | false => exact ht.countError.waited
      | true =>
        simp only [Bool.not_true, Bool.false_eq_true, if_false, ends_get_bind]
        refine ends_lift_bind (fun time hdelay => ?_) fun _ _ => ht.countError.waited
        rw [ends_modify_bind]
        rw [ht.countError.waits, ht.countError.clock] at hdelay
        exact (ih (n + 1) _).mono (fun _ _ => .succ ht.countError hdelay)
          fun _ _ => .succ ht.countError hdelay

theorem waited_askAt (c : Client) (p : Pace τ) (r : Request) (w : Wire τ) :
    Waited p 0 c.maxRetries.toNat w (run (c.askAt p r) w).2 :=
  ends_state.mp (ends_tryFrom_waited c p r 0 c.maxRetries.toNat w)

end Run

/-- Waits up to some time each come to that time for each of them at most. -/
theorem sum_waits_le {times : List ℚ} {most : ℚ} {count : Nat} (h : times.length ≤ count)
    (hmost : 0 ≤ most) (hle : ∀ i (hi : i < times.length), times[i] ≤ most) :
    times.sum ≤ count * most := by
  have hall : ∀ time ∈ times, time ≤ most := by
    intro time hmem
    obtain ⟨i, hi, rfl⟩ := List.getElem_of_mem hmem
    exact hle i hi
  calc times.sum ≤ times.length • most := List.sum_le_card_nsmul times most hall
    _ = times.length * most := nsmul_eq_mul _ _
    _ ≤ count * most := mul_le_mul_of_nonneg_right (Nat.cast_le.mpr h) hmost

/-- No wait is less than nothing or more than the limit and a twentieth of it, and one is more than
the limit just if it has grown beyond it and the clock is in the first half of a second. All waits
together keep to this as often as tries are made again. In doubles, the longest wait is the limit as
a full second moves it. -/
theorem waits_limited (c : Client) (r : Request) :
    (∀ (p : Pace ℚ) (w : Wire ℚ), 0 ≤ p.base → 0 ≤ p.max →
      ∃ times, (run (c.askAt p r) w).2.waits = w.waits ++ times ∧
        times.length ≤ c.maxRetries.toNat ∧
        (∀ i (h : i < times.length), 0 ≤ times[i] ∧ times[i] ≤ 21 / 20 * p.max ∧
          (times[i] ≤ p.max ↔ p.max = 0 ∨ 1 / 2 ≤ Int.fract (w.clock (w.waits.length + i)) ∨
            p.base * 2 ^ i * Pace.shift (w.clock (w.waits.length + i)) ≤ p.max)) ∧
        times.sum ≤ c.maxRetries.toNat * (21 / 20 * p.max) ∧
        ((∀ i < times.length, 1 / 2 ≤ Int.fract (w.clock (w.waits.length + i))) →
          times.sum ≤ c.maxRetries.toNat * p.max)) ∧
    (∀ w : Wire, Pace.IsLength c.baseDelay → Pace.IsLength c.maxDelay →
      (∀ i, (w.clock i).Proper) →
      ∃ times, (Wire.run (c.ask r) w).2.waits = w.waits ++ times ∧
        times.length ≤ c.maxRetries.toNat ∧
        ∀ i (h : i < times.length), Binary64.zero.le times[i] = true ∧
          times[i].le (Pace.moved c.maxDelay .zero) = true ∧
          (half.le (w.clock (w.waits.length + i)).modOne = true →
            times[i].le c.maxDelay = true)) := by
  constructor
  · intro p w hbase hmax
    obtain ⟨times, hwaits, hlength, htimes⟩ := waited_askAt c p r w
    have hexact : ∀ i (h : i < times.length),
        times[i] = p.capped i * Pace.shift (w.clock (w.waits.length + i)) := by
      intro i h
      have hdelay := htimes i h
      rw [Nat.zero_add, Pace.delay_exact hbase hmax] at hdelay
      exact (Except.ok.inj hdelay).symm
    have hlonger : 0 ≤ 21 / 20 * p.max := by linarith
    refine ⟨times, hwaits, hlength, fun i h => ?_, sum_waits_le hlength hlonger fun i h => ?_,
      fun hlate => sum_waits_le hlength hmax fun i h => ?_⟩
    · rw [hexact i h]
      obtain ⟨hlow, hhigh⟩ := Pace.exact_bounds hbase hmax
      exact ⟨hlow, hhigh, Pace.exact_le_max_iff hbase hmax⟩
    · rw [hexact i h]
      exact (Pace.exact_bounds hbase hmax).2
    · rw [hexact i h]
      exact (Pace.exact_le_max_iff hbase hmax).mpr (.inr (.inl (hlate i h)))
  · intro w hbase hmax hclock
    obtain ⟨times, hwaits, hlength, htimes⟩ := waited_askAt c c.pace r w
    exact ⟨times, hwaits, hlength, fun i h =>
      Pace.delay_bounds hbase hmax (hclock _) (htimes i h)⟩

section Example

/-- A client that tries once more, a second later. -/
def hastyClient : Client :=
  { provider := .openai, key := "sk-1", model := "m", base := "http://h", maxRetries := 1
    baseDelay := .ofRatio false 1 1, maxDelay := .ofRatio false 1 1 }

def hastyRequest : Request := { method := .get, url := "http://h/v1/models" }

/-- A server that is busy all the time, and a clock that stands. -/
def busyWire {τ : Type} (time : τ) : Wire τ :=
  { answers := fun _ => .ok { status := 429, body := .text "" }
    clock := fun _ => time }

theorem busyWire_waits {τ : Type} (time : τ) : (busyWire time).waits = [] := rfl

theorem busyWire_clock {τ : Type} (time : τ) (i : Nat) : (busyWire time).clock i = time := rfl

/-- Three quarters of a second. -/
def late : Binary64 := .ofRatio false 3 4

theorem isLength_second : Pace.IsLength (.ofRatio false 1 1) := by
  have hone : Binary64.ofRatio false 1 1 = .finite false Binary64.oneUnits := by decide +kernel
  refine ⟨?_, by decide +kernel⟩
  rw [hone]
  exact .finite false Binary64.spacing_oneUnits Binary64.one_lt_overflow

theorem proper_late : late.Proper := by
  have hlate : late = .finite false (3 * (Binary64.oneUnits / 4)) := by decide +kernel
  rw [hlate]
  exact .finite false (by decide +kernel) (by decide +kernel)

/-- In the second half of a second the limit is kept. -/
theorem busyWire_within_limit : (0 : ℚ) ≤ 1 ∧ Pace.IsLength hastyClient.baseDelay ∧
    Pace.IsLength hastyClient.maxDelay ∧ (∀ i, ((busyWire late).clock i).Proper) ∧
    (∃ times, (run (hastyClient.askAt ⟨1, 1⟩ hastyRequest) (busyWire (3 / 4 : ℚ))).2.waits =
      times ∧ times.length = 1 ∧ times.sum ≤ 1) ∧
    ∃ times, (Wire.run (hastyClient.ask hastyRequest) (busyWire late)).2.waits = times ∧
      times.length = 1 ∧ ∀ i (h : i < times.length), times[i].le hastyClient.maxDelay = true := by
  have hbase : Pace.IsLength hastyClient.baseDelay := by
    simp only [hastyClient]
    exact isLength_second
  have hmax : Pace.IsLength hastyClient.maxDelay := by
    simp only [hastyClient]
    exact isLength_second
  have hclock : ∀ i, ((busyWire late).clock i).Proper := fun i => by
    rw [busyWire_clock]
    exact proper_late
  have hexact : (run (hastyClient.askAt ⟨1, 1⟩ hastyRequest)
      (busyWire (3 / 4 : ℚ))).2.waits.length = 1 := by decide +kernel
  have hdouble : (Wire.run (hastyClient.ask hastyRequest) (busyWire late)).2.waits.length = 1 := by
    decide +kernel
  have hlate : 1 / 2 ≤ Int.fract (3 / 4 : ℚ) := by norm_num
  have hhalf : half.le late.modOne = true := by decide +kernel
  obtain ⟨hrational, hreal⟩ := waits_limited hastyClient hastyRequest
  obtain ⟨times, htimes, -, -, -, hsum⟩ :=
    hrational ⟨1, 1⟩ (busyWire (3 / 4)) zero_le_one zero_le_one
  obtain ⟨rounded, hrounded, -, hbounds⟩ := hreal (busyWire late) hbase hmax hclock
  rw [busyWire_waits, List.nil_append] at htimes hrounded
  simp only [busyWire_clock] at hsum hbounds
  have hmost := hsum fun _ _ => hlate
  norm_num [hastyClient] at hmost
  exact ⟨zero_le_one, hbase, hmax, hclock, ⟨times, htimes, htimes ▸ hexact, hmost⟩,
    rounded, hrounded, hrounded ▸ hdouble, fun i h => (hbounds i h).2.2 hhalf⟩

/-- At a full second the wait is a twentieth longer than the limit. -/
theorem busyWire_over_limit :
    (run (hastyClient.askAt ⟨1, 1⟩ hastyRequest) (busyWire (0 : ℚ))).2.waits = [21 / 20] ∧
      ¬(21 / 20 : ℚ) ≤ 1 ∧
      (Wire.run (hastyClient.ask hastyRequest) (busyWire .zero)).2.waits =
        [.ofDecimal false 105 (-2)] ∧
      (Binary64.ofDecimal false 105 (-2)).le hastyClient.maxDelay = false := by
  refine ⟨?_, by norm_num, ?_, ?_⟩
  · decide +kernel
  · decide +kernel
  · decide +kernel

end Example

end LinkShelf.Client

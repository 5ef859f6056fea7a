import LinkShelf.Proofs.Plan.Fence
import LinkShelf.Proofs.Text.Trim
/-!
What of a reply is read as JSON, and what becomes of it. A reply that is the text of a list or an
object is read as that value if it has no fenced block, and nothing is read of a blank one.
-/
namespace LinkShelf.Reply

open LinkShelf.Json (Flat Blank DenotesDocument)

variable {text : String} {v : Json} {vs : List Json} {cs p : List Char}

section Blocks

theorem candidate_block (h : fenced? text.toList = some p) (hp : p ≠ []) :
    candidate text = .ofList p := by
  have hne : String.ofList p ≠ "" := fun hempty => hp (by simpa using congrArg String.toList hempty)
  unfold candidate payload?
  rw [h]
  exact if_neg hne

/-- A block with nothing in it does not count. -/
theorem candidate_empty_block (h : fenced? text.toList = some []) : candidate text = text := by
  unfold candidate payload?
  rw [h]
  exact if_pos rfl

theorem fenced?_blank (h : Text.blank text = true) : fenced? text.toList = none := by
  refine fenced?_of_no_fence (no_fence_of_not_mem fun hin => ?_)
  have hblank := List.all_eq_true.mp h _ hin
  revert hblank
  decide

end Blocks

section Trimmed

theorem isBlank_of_blank {sp : List Char} (h : Blank sp) : ∀ c ∈ sp, Text.isBlank c = true := by
  intro c hc
  have hspace := h c hc
  simp only [Json.isSpace, Bool.or_eq_true, decide_eq_true_eq] at hspace
  rcases hspace with ((rfl | rfl) | rfl) | rfl <;> decide

/-- The text of a list or an object, when trimmed, is one of the same value between brackets. -/
theorem trimmed_denotes (h : DenotesDocument v cs) (hv : ¬Flat v) :
    DenotesDocument v (Text.trimChars cs) ∧ bracketed (Text.trimChars cs) = true := by
  obtain @⟨sp, t, sp', hsp, h, hsp'⟩ := h
  obtain ⟨c, m, d, rfl, hcd⟩ := h.brackets hv
  have hc : Text.isBlank c = false ∧ Text.isBlank d = false := by
    rcases hcd with ⟨rfl, rfl⟩ | ⟨rfl, rfl⟩ <;> decide
  have htrim : Text.trimChars (sp ++ (c :: (m ++ [d]) ++ sp')) = c :: (m ++ [d]) := by
    have hpad := Text.trimChars_padded (isBlank_of_blank hsp) (isBlank_of_blank hsp') hc.1 hc.2 m
    simpa using hpad
  rw [htrim]
  refine ⟨by simpa using DenotesDocument.intro Json.blank_nil h Json.blank_nil, ?_⟩
  have hlast : (c :: (m ++ [d])).getLast? = some d := by
    rw [← List.cons_append, List.getLast?_concat]
  unfold bracketed
  rw [hlast]
  rcases hcd with ⟨rfl, rfl⟩ | ⟨rfl, rfl⟩ <;> rfl

theorem parse_trimmed (h : Json.parse text = .ok v) (hv : ¬Flat v) :
    Json.parse (Text.trim text) = .ok v :=
  (trimmed_denotes (Json.parse_denotes h) hv).1.parse

theorem trim_ne_empty (h : Json.parse text = .ok v) (hv : ¬Flat v) : Text.trim text ≠ "" := by
  intro hempty
  have hparse := parse_trimmed h hv
  rw [hempty] at hparse
  cases hparse

theorem filled_of_parse (h : Json.parse text = .ok v) (hv : ¬Flat v) : Text.blank text = false :=
  Bool.eq_false_iff.mpr fun hblank => trim_ne_empty h hv (Text.trim_eq_empty_iff.mpr hblank)

/-- Without a block that counts, what is read of the text of a list or an object is its value. -/
theorem parse_candidate (h : Json.parse text = .ok v) (hv : ¬Flat v)
    (hfence : (fenced? text.toList).getD [] = []) : Json.parse (candidate text) = .ok v := by
  cases hf : fenced? text.toList with
  | some block =>
    rw [hf, Option.getD_some] at hfence
    rwa [candidate_empty_block (hfence ▸ hf)]
  | none =>
    have hbracketed := (trimmed_denotes (Json.parse_denotes h) hv).2
    have hcandidate : candidate text = Text.trim text := by
      unfold candidate payload?
      rw [hf]
      simp only [hbracketed, if_true]
      exact if_neg (trim_ne_empty h hv)
    rw [hcandidate, parse_trimmed h hv]

end Trimmed

section Outcome

/-- What is no envelope is read as it is, at any depth. -/
theorem decode_own (h : inner? text = none) (depth : Nat) : decode depth text = ownValue text := by
  cases depth with
  | zero => rfl
  | succ depth =>
    unfold decode
    rw [h]

/-- A list, and an object with an action, is no envelope. -/
theorem inner?_own (h : Json.parse (candidate text) = .ok v)
    (hv : (∃ vs, v = .arr vs) ∨ (v.get? "action").isSome = true) : inner? text = none := by
  unfold inner?
  rw [h]
  rcases hv with ⟨vs, rfl⟩ | haction
  · rfl
  · simp only [haction, if_true]

/-- The plan of such a reply is made of the steps in what was read. -/
theorem plan_own (hfilled : Text.blank text = false) (h : Json.parse (candidate text) = .ok v)
    (hv : (∃ vs, v = .arr vs) ∨ (v.get? "action").isSome = true) (depth : Nat) :
    plan depth text = (stepsOf (itemsOf v) >>= fun
      | [] => .error (.plan "Unable to interpret agent response.")
      | steps => pure steps) := by
  unfold plan
  rw [hfilled, decode_own (inner?_own h hv), ownValue, h]
  rfl

/-- A reply with a list in a fenced block. -/
theorem plan_block (h : fenced? cs = some p) (hp : p ≠ [])
    (hparse : Json.parse (.ofList p) = .ok (.arr vs)) (depth : Nat) :
    inner? (.ofList cs) = none ∧ plan depth (.ofList cs) = (stepsOf vs >>= fun
      | [] => .error (.plan "Unable to interpret agent response.")
      | steps => pure steps) := by
  have hblock : fenced? (String.ofList cs).toList = some p := by rwa [String.toList_ofList]
  have hread : Json.parse (candidate (.ofList cs)) = .ok (.arr vs) := by
    rw [candidate_block hblock hp, hparse]
  have hfilled : Text.blank (.ofList cs) = false := by
    refine Bool.eq_false_iff.mpr fun hblank => ?_
    rw [fenced?_blank hblank] at hblock
    cases hblock
  exact ⟨inner?_own hread (.inl ⟨vs, rfl⟩), plan_own hfilled hread (.inl ⟨vs, rfl⟩) depth⟩

end Outcome

section Blank

theorem isBlank_ne {c d : Char} (hc : Text.isBlank c = true) (hd : Text.isBlank d = false) :
    ¬d = c := by
  rintro rfl
  rw [hc] at hd
  cases hd

theorem scalar_blank {c : Char} (hc : Text.isBlank c = true) (cs : List Char) :
    Json.scalar (c :: cs) = .error ⟨.value, c :: cs⟩ := by
  have hconstant : Json.constant? (c :: cs) = none := by
    simp [Json.constant?, Json.constants, isBlank_ne hc (d := 'n') (by decide),
      isBlank_ne hc (d := 't') (by decide), isBlank_ne hc (d := 'f') (by decide),
      isBlank_ne hc (d := 'N') (by decide), isBlank_ne hc (d := 'I') (by decide),
      isBlank_ne hc (d := '-') (by decide)]
  have hdigit : c.isDigit = false := by
    refine Bool.eq_false_iff.mpr fun hd => ?_
    obtain ⟨hlow, hhigh⟩ := Text.digit_bounds hd
    rw [Text.not_isBlank_of_bounds (by omega) (by omega)] at hc
    cases hc
  have hwhole : Json.wholeDigits (c :: cs) = ([], c :: cs) := by
    rw [Json.wholeDigits, if_neg (Ne.symm (isBlank_ne hc (by decide))), hdigit]
    rfl
  have hnumber : Json.number? (c :: cs) = none := by
    unfold Json.number?
    split
    · rename_i heq
      exact (isBlank_ne hc (by decide) (List.cons.inj heq).1.symm).elim
    · rw [Json.unsigned?, hwhole]
  rw [Json.scalar, hconstant, hnumber]

/-- A text of a value has more in it than blanks, of whatever script. -/
theorem denotes_filled (h : Json.Denotes (.value v) cs) : ∃ c ∈ cs, Text.isBlank c = false := by
  cases h with
  | bare h =>
    obtain ⟨c, tail, rfl⟩ := List.exists_cons_of_ne_nil h.filled
    refine ⟨c, List.mem_cons_self, Bool.eq_false_iff.mpr fun hc => ?_⟩
    have hread := h.read [] Json.quiet_nil
    rw [List.append_nil, scalar_blank hc] at hread
    cases hread
  | str => exact ⟨'"', List.mem_cons_self, by decide⟩
  | emptyList | list => exact ⟨'[', List.mem_cons_self, by decide⟩
  | emptyObject | object => exact ⟨'\x7b', List.mem_cons_self, by decide⟩

theorem parse_blank (h : Text.blank text = true) : ∃ e, Json.parse text = .error e := by
  cases hparse : Json.parse text with
  | error e => exact ⟨e, rfl⟩
  | ok v =>
    have hblank : ∀ c ∈ text.toList, Text.isBlank c = true := List.all_eq_true.mp h
    have hdenotes := Json.parse_denotes hparse
    generalize text.toList = cs at hblank hdenotes
    obtain ⟨-, hv, -⟩ := hdenotes
    obtain ⟨c, hc, hfilled⟩ := denotes_filled hv
    rw [hblank c (List.mem_append_right _ (List.mem_append_left _ hc))] at hfilled
    cases hfilled

/-- Nothing can be read of a blank reply. -/
theorem decode_blank (h : Text.blank text = true) (m : Nat) :
    ∃ message, decode m text = .error (.plan message) := by
  have htrim : Text.trimChars text.toList = [] := by
    have hempty := congrArg String.toList (Text.trim_eq_empty_iff.mpr h)
    simpa [Text.trim] using hempty
  have hcandidate : candidate text = text := by
    unfold candidate payload?
    rw [fenced?_blank h, htrim]
    rfl
  obtain ⟨e, he⟩ := parse_blank h
  have hinner : inner? text = none := by
    unfold inner?
    rw [hcandidate, he, Text.trim_eq_empty_iff.mpr h]
    rfl
  rw [decode_own hinner, ownValue, hcandidate, he]
  exact ⟨_, rfl⟩

end Blank

end LinkShelf.Reply

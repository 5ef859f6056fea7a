import LinkShelf.Proofs.Json.Grammar
/-!
JSON text is read back as the value it was written from, in any layout. The values are those
without doubles in which no object has a name twice.
-/
namespace LinkShelf.Json

theorem first_blank (indent : Indent) (level : Nat) :
    Blank (indent.first level) := by
  intro c hc
  cases indent with
  | none => simp [Indent.first] at hc
  | some width =>
    rcases List.mem_cons.mp hc with rfl | hc
    · rfl
    · rw [(List.mem_replicate.mp hc).2]
      rfl

/-- A separator is a comma with blanks after it. -/
theorem separator_eq (indent : Indent) (level : Nat) :
    ∃ sp, indent.separator level = ',' :: sp ∧ Blank sp := by
  cases indent with
  | none => exact ⟨[' '], rfl, by simp [Blank, isSpace]⟩
  | some width => exact ⟨_, rfl, first_blank (some width) level⟩

/-- The blank after the colon of a member. -/
theorem blank_space : Blank [' '] := by
  simp [Blank, isSpace]

mutual

/-- What is written for a value is one of its texts. -/
theorem spells_write (indent : Indent) : (v : Json) → (level : Nat) → plain v = true →
    Spells (.value v) (write indent level v)
  | .null, _, _ => .null
  | .bool b, _, _ => .bool b
  | .int n, _, _ => .int n
  | .str s, _, _ => .str (spells_escaped s.toList)
  | .arr [], _, _ => .emptyList blank_nil
  | .obj [], _, _ => .emptyObject blank_nil
  | .arr (v :: vs), level, hv => by
    simp only [plain, plainItems, Bool.and_eq_true] at hv
    have hitems := spells_writeItems indent vs v level hv.1 hv.2
    have hlist := Spells.list (first_blank indent (level + 1)) hitems
    simpa [write] using hlist
  | .obj ((k, v) :: ms), level, hv => by
    have hmembers := spells_writeMembers indent ms k v level hv
    have hobject := Spells.object (first_blank indent (level + 1)) hmembers
    simpa [write, literal] using hobject
  | .float _, _, hv => by simp [plain] at hv
termination_by v => sizeOf v

theorem spells_writeItems (indent : Indent) : (vs : List Json) → (v : Json) → (level : Nat) →
    plain v = true → plainItems vs = true →
    Spells (.items (v :: vs)) (write indent (level + 1) v ++
      (writeItems indent (level + 1) vs ++ (indent.first level ++ [']'])))
  | [], v, level, hv, _ => .lastItem (spells_write indent v (level + 1) hv) (first_blank _ _)
  | w :: ws, v, level, hv, hvs => by
    simp only [plainItems, Bool.and_eq_true] at hvs
    obtain ⟨sp, hsep, hsp⟩ := separator_eq indent (level + 1)
    have hrest := spells_writeItems indent ws w level hvs.1 hvs.2
    have hitem := Spells.item (spells_write indent v (level + 1) hv) blank_nil hsp hrest
    simpa [writeItems, hsep] using hitem
termination_by vs v => sizeOf (v :: vs)

theorem spells_writeMembers (indent : Indent) : (ms : List (String × Json)) → (k : String) →
    (v : Json) → (level : Nat) → plainMembers ((k, v) :: ms) = true →
    Spells (.members ((k, v) :: ms)) (literal k ++ ':' :: ' ' :: (write indent (level + 1) v ++
      (writeMembers indent (level + 1) ms ++ (indent.first level ++ ['\x7d']))))
  | [], k, v, level, hv => by
    simp only [plainMembers, Bool.and_eq_true] at hv
    have hmember := Spells.lastMember (spells_escaped k.toList) blank_nil blank_space
      (spells_write indent v (level + 1) hv.1.2) (first_blank indent level)
    simpa [writeMembers, literal] using hmember
  | (j, w) :: ws, k, v, level, hv => by
    rw [plainMembers, Bool.and_eq_true, Bool.and_eq_true] at hv
    obtain ⟨sp, hsep, hsp⟩ := separator_eq indent (level + 1)
    have hmember := Spells.member (spells_escaped k.toList) blank_nil blank_space
      (spells_write indent v (level + 1) hv.1.2) blank_nil hsp
      (spells_writeMembers indent ws j w level hv.2)
    simpa [writeMembers, literal, hsep] using hmember
termination_by ms k v => sizeOf ((k, v) :: ms)

end

theorem spells_render {v : Json} (hv : plain v = true) (indent : Indent) :
    SpellsDocument v (write indent 0 v) := by
  simpa using SpellsDocument.intro blank_nil (spells_write indent v 0 hv) blank_nil

/-- JSON text is read back as the value it was written from. -/
theorem parse_render {v : Json} (hv : plain v = true) (indent : Indent) :
    parse (render indent v) = .ok v :=
  (spells_render hv indent).parse hv

theorem return_not_mem_escapeChar (c : Char) : '\r' ∉ escapeChar c := by
  rcases escapeChar_cases c with ⟨e, he, hc⟩ | ⟨hc, he⟩ | ⟨he, -, -, hc⟩
  · rw [he]
    have hne : e ≠ '\r' := by
      rintro rfl
      simp [unescape?] at hc
    simpa using hne.symm
  · obtain ⟨a, b, hab, hn⟩ := hex4_control hc
    rw [he, hab]
    simp only [List.mem_cons, List.not_mem_nil, or_false, not_or]
    refine ⟨by decide, by decide, by decide, by decide, ?_, ?_⟩ <;>
      · rintro rfl
        simp [hex4?, Text.hexDigit?] at hn
  · rw [he, List.mem_singleton]
    rintro rfl
    exact hc (by decide)

theorem return_not_mem_literal (s : String) : '\r' ∉ literal s := by
  simp [literal, return_not_mem_escapeChar]

theorem return_not_mem_first (indent : Indent) (level : Nat) : '\r' ∉ indent.first level := by
  cases indent <;> simp [Indent.first]

theorem return_not_mem_separator (indent : Indent) (level : Nat) :
    '\r' ∉ indent.separator level := by
  cases indent <;> simp [Indent.separator]

theorem return_not_mem_intText (n : Int) : '\r' ∉ (intText n).toList := by
  have hdigits : '\r' ∉ Nat.toDigits 10 n.natAbs := fun h =>
    absurd (Nat.isDigit_of_mem_toDigits (by omega) (by omega) h) (by decide)
  unfold intText Binary64.digitsText
  by_cases hn : n < 0 <;> simp [hn, hdigits]

mutual

/-- Line ends inside a text are escaped, and those of the layout are single newlines. -/
theorem return_not_mem_write (indent : Indent) : (v : Json) → (level : Nat) → plain v = true →
    '\r' ∉ write indent level v
  | .null, _, _ | .bool true, _, _ | .bool false, _, _ => by simp [write]
  | .int n, _, _ => return_not_mem_intText n
  | .str s, _, _ => return_not_mem_literal s
  | .arr [], _, _ | .obj [], _, _ => by simp [write]
  | .arr (v :: vs), level, hv => by
    simp only [plain, plainItems, Bool.and_eq_true] at hv
    simp [write, return_not_mem_first, return_not_mem_write indent v (level + 1) hv.1,
      return_not_mem_writeItems indent vs (level + 1) hv.2]
  | .obj ((k, v) :: ms), level, hv => by
    simp only [plain, plainMembers, Bool.and_eq_true] at hv
    simp [write, return_not_mem_first, return_not_mem_literal,
      return_not_mem_write indent v (level + 1) hv.1.2,
      return_not_mem_writeMembers indent ms (level + 1) hv.2]
  | .float _, _, hv => by simp [plain] at hv

theorem return_not_mem_writeItems (indent : Indent) : (vs : List Json) → (level : Nat) →
    plainItems vs = true → '\r' ∉ writeItems indent level vs
  | [], _, _ => by simp [writeItems]
  | v :: vs, level, hv => by
    simp only [plainItems, Bool.and_eq_true] at hv
    simp [writeItems, return_not_mem_separator, return_not_mem_write indent v level hv.1,
      return_not_mem_writeItems indent vs level hv.2]

theorem return_not_mem_writeMembers (indent : Indent) : (ms : List (String × Json)) →
    (level : Nat) → plainMembers ms = true → '\r' ∉ writeMembers indent level ms
  | [], _, _ => by simp [writeMembers]
  | (k, v) :: ms, level, hv => by
    simp only [plainMembers, Bool.and_eq_true] at hv
    simp [writeMembers, return_not_mem_separator, return_not_mem_literal,
      return_not_mem_write indent v level hv.1.2,
      return_not_mem_writeMembers indent ms level hv.2]

end

end LinkShelf.Json

import LinkShelf.Html.Token
import Mathlib.Logic.Basic
/-!
Escaping and resolving. An escaped text holds no character that markup looks for, and resolving
its references gives the text back, in an attribute value all at once and in running text one
character at a time.
-/
namespace LinkShelf.Html

/-- Characters that mean something in markup and are therefore written as references. -/
def isSpecial (c : Char) : Bool := c = '&' || c = '<' || c = '>' || c = '"' || c = '\''

theorem isSpecial_cases {c : Char} (h : isSpecial c = true) :
    c = '&' ∨ c = '<' ∨ c = '>' ∨ c = '"' ∨ c = '\'' := by
  simpa [isSpecial, or_assoc] using h

theorem escapeChar_plain {c : Char} (h : isSpecial c = false) : escapeChar c = [c] := by
  unfold escapeChar
  split <;> first | rfl | cases h

theorem escapeChars_plain {cs : List Char} (h : ∀ c ∈ cs, isSpecial c = false) :
    escapeChars cs = cs := by
  induction cs with
  | nil => rfl
  | cons c cs ih =>
    rw [escapeChars, List.flatMap_cons, escapeChar_plain (h c (by simp))]
    exact congrArg (c :: ·) (ih fun x hx => h x (by simp [hx]))

section Resolve

/-- A reference by name, whatever follows its semicolon. -/
theorem reference?_name {name : List Char} (hname : name.all isNameChar = true)
    (hne : name ≠ []) (hlength : name.length < 32) (rest : List Char) :
    reference? (name ++ ';' :: rest) = some (resolveName name true, rest) := by
  have hchars := List.all_eq_true.mp hname
  obtain ⟨k, hk⟩ := Nat.exists_eq_add_of_lt hlength
  have htake : (name ++ ';' :: rest).take 32 = name ++ ';' :: rest.take k := by
    rw [List.take_append, List.take_of_length_le (by omega), show 32 - name.length = k + 1 by omega,
      List.take_succ_cons]
  have hsemicolon : isNameChar ';' = false := by decide
  have hscan : ((name ++ ';' :: rest).take 32).takeWhile isNameChar = name := by
    rw [htake, List.takeWhile_append_of_pos hchars,
      List.takeWhile_cons_of_neg (by simp [hsemicolon]), List.append_nil]
  have hhash : ∀ cs, name ++ ';' :: rest ≠ '#' :: cs := by
    intro cs h
    obtain ⟨c, name, rfl⟩ := List.exists_cons_of_ne_nil hne
    have := hchars c (by simp)
    rw [List.cons_append, List.cons.injEq] at h
    rw [h.1] at this
    exact absurd this (by decide)
  rw [reference?.eq_def]
  split
  · exact absurd ‹_› (hhash _)
  · exact absurd ‹_› (hhash _)
  · exact absurd ‹_› (hhash _)
  · simp only [hscan, List.isEmpty_iff, hne, if_false, List.drop_left]

/-- Each special character is written as a reference that stands for it. -/
theorem reference?_escapeChar {c : Char} (h : isSpecial c = true) (rest : List Char) :
    ∃ cs, escapeChar c = '&' :: cs ∧ reference? (cs ++ rest) = some ([c], rest) := by
  have hnamed (name : List Char) (hname : name.all isNameChar = true) (hne : name ≠ [])
      (hlength : name.length < 32) (hvalue : resolveName name true = [c]) :
      reference? (name ++ ';' :: rest) = some ([c], rest) := by
    rw [reference?_name hname hne hlength, hvalue]
  rcases isSpecial_cases h with rfl | rfl | rfl | rfl | rfl
  · exact ⟨_, rfl, hnamed ['a', 'm', 'p'] (by decide) (by decide) (by decide) (by decide +kernel)⟩
  · exact ⟨_, rfl, hnamed ['l', 't'] (by decide) (by decide) (by decide) (by decide +kernel)⟩
  · exact ⟨_, rfl, hnamed ['g', 't'] (by decide) (by decide) (by decide) (by decide +kernel)⟩
  · exact ⟨_, rfl, hnamed ['q', 'u', 'o', 't'] (by decide) (by decide) (by decide)
      (by decide +kernel)⟩
  · exact ⟨_, rfl, rfl⟩

theorem resolveFrom_escapeChars (cs : List Char) {fuel : Nat}
    (h : (escapeChars cs).length < fuel) : resolveFrom fuel (escapeChars cs) = cs := by
  induction cs generalizing fuel with
  | nil =>
    obtain ⟨fuel, rfl⟩ : ∃ n, fuel = n + 1 := ⟨fuel - 1, by omega⟩
    rfl
  | cons c cs ih =>
    obtain ⟨fuel, rfl⟩ : ∃ n, fuel = n + 1 := ⟨fuel - 1, by omega⟩
    have hsplit : escapeChars (c :: cs) = escapeChar c ++ escapeChars cs := List.flatMap_cons
    rw [hsplit] at h ⊢
    cases hc : isSpecial c with
    | false =>
      rw [escapeChar_plain hc] at h ⊢
      have hamp : c ≠ '&' := by
        rintro rfl
        cases hc
      simp only [List.cons_append, List.nil_append, List.length_cons] at h ⊢
      rw [resolveFrom, if_neg hamp, ih (by omega)]
    | true =>
      obtain ⟨ds, hds, hread⟩ := reference?_escapeChar hc (escapeChars cs)
      rw [hds] at h ⊢
      simp only [List.cons_append, List.length_cons, List.length_append] at h ⊢
      rw [resolveFrom, if_pos rfl, hread]
      simp only [List.singleton_append]
      rw [ih (by omega)]

/-- An attribute value means the text that was escaped for it. -/
theorem resolve_escapeChars (cs : List Char) : resolve (escapeChars cs) = cs :=
  resolveFrom_escapeChars cs (Nat.lt_succ_self _)

end Resolve

/-- No quote is left that could end an attribute value. -/
theorem quote_not_mem_escapeChars (cs : List Char) : '"' ∉ escapeChars cs := by
  intro h
  obtain ⟨c, -, hc⟩ := List.mem_flatMap.mp h
  cases hs : isSpecial c with
  | false =>
    rw [escapeChar_plain hs, List.mem_singleton] at hc
    subst hc
    cases hs
  | true => rcases isSpecial_cases hs with rfl | rfl | rfl | rfl | rfl <;> revert hc <;> decide

theorem escapeChar_ne_nil (c : Char) : escapeChar c ≠ [] := by
  cases hs : isSpecial c with
  | false => simp [escapeChar_plain hs]
  | true => rcases isSpecial_cases hs with rfl | rfl | rfl | rfl | rfl <;> decide

theorem escape_eq_empty_iff {s : String} : escape s = "" ↔ s = "" := by
  have hchars : escapeChars s.toList = [] ↔ s.toList = [] := by
    rw [escapeChars, List.flatMap_eq_nil_iff, List.eq_nil_iff_forall_not_mem]
    exact forall₂_congr fun c _ => iff_false_intro (escapeChar_ne_nil c)
  rw [← String.toList_eq_nil_iff, ← String.toList_eq_nil_iff, ← hchars, escape,
    String.toList_ofList]

section RunningText

/-- A reference by name in running text. -/
theorem scanAmpersand_name {c d : Char} (name : List Char)
    (hname : (c :: name).all isAlnum = true) (hc : isLetter c = true)
    (hd : named? (.ofList (c :: name)) = some [d]) (final : Bool)
    (rest : List Char) :
    scanAmpersand final ('&' :: (c :: name ++ ';' :: rest)) = .tokens [.text [d]] rest none := by
  have hall : ∀ x ∈ c :: name, (isAlnum x || x = '-' || x = '.') = true := by
    intro x hx
    simp [List.all_eq_true.mp hname x hx]
  have hread : referenceName? (c :: name ++ ';' :: rest) = some (c :: name, rest) := by
    have hsemicolon : (isAlnum ';' || ';' = '-' || ';' = '.') = false := by decide
    rw [referenceName?]
    simp only [List.takeWhile_append_of_pos hall, List.dropWhile_append_of_pos hall,
      List.takeWhile_cons, List.dropWhile_cons, hsemicolon, Bool.false_eq_true, if_false,
      List.append_nil]
  have hhash : c ≠ '#' := by
    rintro rfl
    cases hc
  rw [List.cons_append] at hread ⊢
  rw [scanAmpersand.eq_def]
  split
  · simp_all
  · simp_all
  · rename_i heq
    simp only [List.cons.injEq, true_and] at heq
    obtain ⟨rfl, rfl⟩ := heq
    simp only [hc, if_true, hread, hd, Option.getD_some]
  · simp_all

/-- In running text a reference is a token of its own, in the first go as in the last. -/
theorem scanAmpersand_escapeChar {c : Char} (h : isSpecial c = true) (final : Bool)
    (rest : List Char) :
    scanAmpersand final (escapeChar c ++ rest) = .tokens [.text [c]] rest none := by
  rcases isSpecial_cases h with rfl | rfl | rfl | rfl | rfl
  · exact scanAmpersand_name ['m', 'p'] (by decide) (by decide) (by decide +kernel) ..
  · exact scanAmpersand_name ['t'] (by decide) (by decide) (by decide +kernel) ..
  · exact scanAmpersand_name ['t'] (by decide) (by decide) (by decide +kernel) ..
  · exact scanAmpersand_name ['u', 'o', 't'] (by decide) (by decide) (by decide +kernel) ..
  · rfl

end RunningText

end LinkShelf.Html

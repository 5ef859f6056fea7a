import LinkShelf.Number.Numeral
import LinkShelf.Proofs.Json.Scalar
import LinkShelf.Proofs.Text.Trim
import Mathlib.Data.List.TakeWhile
/-!
The text of a whole number is read as that number.
-/
namespace LinkShelf.Numeral

variable {c : Char} {cs : List Char}

/-- The characters of a whole number. -/
def IsWholeChar (c : Char) : Prop := c.isDigit = true ∨ c = '-'

theorem IsWholeChar.bounds (h : IsWholeChar c) : 0x20 < c.toNat ∧ c.toNat < 128 := by
  rcases h with h | rfl
  · have := Text.digit_bounds h
    omega
  · decide

theorem isWholeChar_intText (n : Int) : ∀ c ∈ (Json.intText n).toList, IsWholeChar c := by
  intro c hc
  have hdigit (hc : c ∈ (Binary64.digitsText n.natAbs).toList) : IsWholeChar c := by
    rw [Binary64.digitsText, String.toList_ofList] at hc
    exact .inl (Nat.isDigit_of_mem_toDigits (by omega) (by omega) hc)
  rw [Json.intText] at hc
  split at hc
  · rw [String.toList_append, List.mem_append] at hc
    exact hc.elim (fun hc => .inr (List.mem_singleton.mp hc)) hdigit
  · exact hdigit hc

theorem toAscii_whole (h : ∀ c ∈ cs, IsWholeChar c) : toAscii cs = cs := by
  refine if_pos (List.all_eq_true.mpr fun c hc => ?_)
  simpa using (h c hc).bounds.2

theorem trim_whole (h : ∀ c ∈ cs, IsWholeChar c) : Text.trimBy Text.isAsciiBlank cs = cs := by
  refine Text.trimBy_of_none fun c hc => ?_
  have hlow := (h c hc).bounds.1
  unfold Char.toNat at hlow
  simp only [Text.isAsciiBlank, Bool.or_eq_false_iff, decide_eq_false_iff_not,
    Bool.and_eq_false_iff, Char.le_def, UInt32.le_iff_toNat_le, Char.reduceVal,
    UInt32.reduceToNat]
  refine ⟨?_, .inr (by omega)⟩
  rintro rfl
  exact absurd hlow (by decide)

theorem dropUnderscores_digits (h : ∀ c ∈ cs, c.isDigit = true) (afterDigit : Bool) :
    dropUnderscores afterDigit cs = some cs := by
  induction cs generalizing afterDigit with
  | nil => rfl
  | cons c cs ih =>
    have hunderscore : c ≠ '_' := by
      rintro rfl
      cases h '_' (by simp)
    have hrest := ih (fun x hx => h x (by simp [hx])) c.isDigit
    rw [dropUnderscores.eq_def]
    split <;> simp_all

theorem digits_digits (h : ∀ c ∈ cs, c.isDigit = true) :
    digits cs = (Json.digitValues cs, []) := by
  rw [digits, List.takeWhile_eq_self_iff.mpr h, List.dropWhile_eq_nil_iff.mpr h,
    Json.digitValues]

/-- Digits alone are a number, behind a minus sign or not. -/
theorem whole?_digits {s : String} (negative : Bool)
    (hs : s.toList = (if negative then ['-'] else []) ++ c :: cs)
    (h : ∀ x ∈ c :: cs, x.isDigit = true) :
    whole? s = some (if negative then -(Text.ofDigits 10 (Json.digitValues (c :: cs)) : Int)
      else Text.ofDigits 10 (Json.digitValues (c :: cs))) := by
  have hchars : ∀ x ∈ s.toList, IsWholeChar x := by
    intro x hx
    rw [hs] at hx
    rcases List.mem_append.mp hx with hx | hx
    · cases negative with
      | false => cases hx
      | true => exact .inr (List.mem_singleton.mp hx)
    · exact .inl (h x hx)
  have hsign : sign s.toList = (negative, c :: cs) := by
    rw [hs]
    cases negative with
    | true => rfl
    | false =>
      have hc := h c (by simp)
      rw [if_neg Bool.false_ne_true, List.nil_append, sign.eq_def]
      split
      · rename_i heq
        rw [(List.cons.inj heq).1] at hc
        cases hc
      · rename_i heq
        rw [(List.cons.inj heq).1] at hc
        cases hc
      · rfl
  rw [whole?]
  simp only [toAscii_whole hchars, trim_whole hchars, hsign, dropUnderscores_digits h,
    digits_digits h, bind, Option.bind, Json.digitValues, List.map_cons]

theorem whole?_intText (n : Int) : whole? (Json.intText n) = some n := by
  have hdigits : ∀ x ∈ Nat.toDigits 10 n.natAbs, x.isDigit = true := fun x hx =>
    Nat.isDigit_of_mem_toDigits (by omega) (by omega) hx
  have hvalue := Json.ofDigits_toDigits n.natAbs
  obtain ⟨c, cs, hc, -⟩ := Json.toDigits_shape n.natAbs
  rw [hc] at hdigits hvalue
  by_cases hn : n < 0
  · have htext : (Json.intText n).toList = ['-'] ++ c :: cs := by
      rw [Json.intText, if_pos hn, Binary64.digitsText, hc]
      simp
    rw [whole?_digits true htext hdigits, if_pos rfl, hvalue]
    exact congrArg some (by omega)
  · have htext : (Json.intText n).toList = [] ++ c :: cs := by
      rw [Json.intText, if_neg hn, Binary64.digitsText, hc]
      simp
    rw [whole?_digits false htext hdigits, if_neg Bool.false_ne_true, hvalue]
    exact congrArg some (by omega)

end LinkShelf.Numeral

import LinkShelf.Json.Reader
import LinkShelf.Json.Writer
/-!
The ways to write the characters of a string literal, that of the writer among them, and whole
numbers, which are read as what they stand for, whatever follows them.
-/
namespace LinkShelf.Json

theorem hex4_control {n : Nat} (h : n < 0x20) :
    ∃ a b, hex 4 n = ['0', '0', a, b] ∧ hex4? '0' '0' a b = some n := by
  have hall : (List.range 0x20).all (fun n => ['0', '1'].any fun a =>
      "0123456789abcdef".toList.any fun b =>
        hex 4 n == ['0', '0', a, b] && hex4? '0' '0' a b == some n) = true := by
    decide +kernel
  have hn := List.all_eq_true.mp hall n (List.mem_range.mpr h)
  obtain ⟨a, -, ha⟩ := List.any_eq_true.mp hn
  obtain ⟨b, -, hab⟩ := List.any_eq_true.mp ha
  rw [Bool.and_eq_true, beq_iff_eq, beq_iff_eq] at hab
  exact ⟨a, b, hab⟩

theorem control_not_surrogate {n : Nat} (h : n < 0x20) : isHighSurrogate n = false := by
  simp only [isHighSurrogate, Bool.and_eq_false_iff, decide_eq_false_iff_not]
  omega

/-- A character is written by a short escape, by its code point, or as it is. -/
theorem escapeChar_cases (c : Char) :
    (∃ e, escapeChar c = ['\\', e] ∧ unescape? e = some c) ∨
    (c.toNat < 0x20 ∧ escapeChar c = '\\' :: 'u' :: hex 4 c.toNat) ∨
    (escapeChar c = [c] ∧ c ≠ '"' ∧ c ≠ '\\' ∧ ¬c.toNat < 0x20) := by
  unfold escapeChar
  split
  · exact .inl ⟨'"', rfl, by simp [unescape?, *]⟩
  split
  · exact .inl ⟨'\\', rfl, by simp [unescape?, *]⟩
  split
  · exact .inl ⟨'n', rfl, by simp [unescape?, *]⟩
  split
  · exact .inl ⟨'r', rfl, by simp [unescape?, *]⟩
  split
  · exact .inl ⟨'t', rfl, by simp [unescape?, *]⟩
  split
  · exact .inl ⟨'b', rfl, by simp [unescape?, *]⟩
  split
  · exact .inl ⟨'f', rfl, by simp [unescape?, *]⟩
  split
  · exact .inr (.inl ⟨‹_›, rfl⟩)
  · exact .inr (.inr ⟨rfl, ‹_›, ‹_›, ‹_›⟩)

/-- The ways to write a character in a literal: as it is, by a short escape, or by its code point,
which takes two escapes if it has more than four digits. -/
inductive SpellsChar : Char → List Char → Prop where
  | raw {c : Char} (hq : c ≠ '"') (hb : c ≠ '\\') (hc : ¬c.toNat < 0x20) : SpellsChar c [c]
  | short {c e : Char} (h : unescape? e = some c) : SpellsChar c ['\\', e]
  | codePoint {a b c d : Char} {n : Nat} (hn : hex4? a b c d = some n)
      (hhigh : isHighSurrogate n = false) (hlow : isLowSurrogate n = false) :
      SpellsChar (.ofNat n) ['\\', 'u', a, b, c, d]
  | pair {a b c d e f g h : Char} {n m : Nat} (hn : hex4? a b c d = some n)
      (hhigh : isHighSurrogate n = true) (hm : hex4? e f g h = some m)
      (hlow : isLowSurrogate m = true) :
      SpellsChar (.ofNat (joinSurrogates n m))
        ['\\', 'u', a, b, c, d, '\\', 'u', e, f, g, h]

inductive SpellsChars : List Char → List Char → Prop where
  | nil : SpellsChars [] []
  | cons {c : Char} {cs t t' : List Char} (hc : SpellsChar c t) (h : SpellsChars cs t') :
      SpellsChars (c :: cs) (t ++ t')

theorem spells_escapeChar (c : Char) : SpellsChar c (escapeChar c) := by
  rcases escapeChar_cases c with ⟨e, he, hc⟩ | ⟨hc, he⟩ | ⟨he, hq, hb, hc⟩
  · rw [he]
    exact .short hc
  · obtain ⟨a, b, hab, hn⟩ := hex4_control hc
    have hlow : isLowSurrogate c.toNat = false := by
      simp only [isLowSurrogate, Bool.and_eq_false_iff, decide_eq_false_iff_not]
      omega
    have hpoint := SpellsChar.codePoint hn (control_not_surrogate hc) hlow
    rw [Char.ofNat_toNat] at hpoint
    rw [he, hab]
    exact hpoint
  · rw [he]
    exact .raw hq hb hc

theorem spells_escaped (cs : List Char) : SpellsChars cs (cs.flatMap escapeChar) := by
  induction cs with
  | nil => exact .nil
  | cons c cs ih => exact .cons (spells_escapeChar c) ih

/-- What a whole number must not be followed by: it would be read as part of the number. -/
def Quiet (rest : List Char) : Prop :=
  ∀ c tail, rest = c :: tail → c.isDigit = false ∧ c ≠ '.' ∧ c ≠ 'e' ∧ c ≠ 'E'

theorem quiet_nil : Quiet [] := by
  intro c tail h
  cases h

theorem quiet_cons {c : Char} {tail : List Char} (hd : c.isDigit = false) (hp : c ≠ '.')
    (he : c ≠ 'e') (hE : c ≠ 'E') : Quiet (c :: tail) := by
  intro x xs h
  cases h
  exact ⟨hd, hp, he, hE⟩

/-- Decimal digits, the first of which is a zero only if it stands alone. -/
theorem toDigits_shape (n : Nat) : ∃ c cs, Nat.toDigits 10 n = c :: cs ∧ (c = '0' → cs = []) := by
  induction n using Nat.strongRecOn with
  | ind n ih =>
    by_cases hn : n < 10
    · exact ⟨n.digitChar, [], Nat.toDigits_of_lt_base hn, fun _ => rfl⟩
    · obtain ⟨c, cs, hc, hz⟩ := ih (n / 10) (by omega)
      refine ⟨c, cs ++ [(n % 10).digitChar], ?_, fun h0 => ?_⟩
      · rw [Nat.toDigits_of_base_le (by omega) (by omega), hc, List.cons_append]
      · -- A number with a zero in front is zero, but this one is a tenth of `n`.
        have hval := @Nat.ofDigitChars_ten_toDigits (n / 10)
        rw [hc, hz h0, h0] at hval
        simp [Nat.ofDigitChars_cons, Nat.ofDigitChars_nil] at hval
        omega

theorem wholeDigits_toDigits (n : Nat) {rest : List Char} (hr : Quiet rest) :
    wholeDigits (Nat.toDigits 10 n ++ rest) = (Nat.toDigits 10 n, rest) := by
  obtain ⟨c, cs, hc, hz⟩ := toDigits_shape n
  have hdigit : ∀ d ∈ c :: cs, d.isDigit = true := by
    intro d hd
    exact Nat.isDigit_of_mem_toDigits (by omega) (by omega) (hc ▸ hd)
  have hcs : ∀ d ∈ cs, d.isDigit = true := fun d hd => hdigit d (by simp [hd])
  have hstop : rest.takeWhile Char.isDigit = [] ∧ rest.dropWhile Char.isDigit = rest := by
    cases rest with
    | nil => exact ⟨rfl, rfl⟩
    | cons x xs => simp [(hr x xs rfl).1]
  rw [hc, List.cons_append, wholeDigits]
  by_cases h0 : c = '0'
  · rw [if_pos h0, hz h0, List.nil_append]
  · rw [if_neg h0, if_pos (hdigit c (by simp)), List.takeWhile_append_of_pos hcs,
      List.dropWhile_append_of_pos hcs, hstop.1, hstop.2, List.append_nil]

theorem ofDigits_toDigits (n : Nat) :
    Text.ofDigits 10 (digitValues (Nat.toDigits 10 n)) = n := by
  have h := @Nat.ofDigitChars_ten_toDigits n
  rw [Nat.ofDigitChars_eq_foldl] at h
  rw [Text.ofDigits, digitValues, List.foldl_map]
  simpa [Nat.mul_comm] using h

theorem fractionDigits_quiet {rest : List Char} (hr : Quiet rest) :
    fractionDigits rest = ([], rest) := by
  rw [fractionDigits.eq_def]
  split
  · exact absurd rfl (hr _ _ rfl).2.1
  · rfl

theorem exponent?_quiet {rest : List Char} (hr : Quiet rest) : exponent? rest = none := by
  cases rest with
  | nil => rfl
  | cons c cs =>
    obtain ⟨-, -, he, hE⟩ := hr c cs rfl
    simp [exponent?, he, hE]

theorem unsigned?_toDigits (negative : Bool) (n : Nat) {rest : List Char} (hr : Quiet rest) :
    unsigned? negative (Nat.toDigits 10 n ++ rest) =
      some (.int (if negative then -n else n), rest) := by
  obtain ⟨c, cs, hc, -⟩ := toDigits_shape n
  have hval := ofDigits_toDigits n
  unfold unsigned?
  rw [wholeDigits_toDigits n hr, hc]
  rw [hc] at hval
  simp [fractionDigits_quiet hr, exponent?_quiet hr, hval]

theorem toDigits_head {n : Nat} {c : Char} {cs : List Char} (h : Nat.toDigits 10 n = c :: cs) :
    c.isDigit = true :=
  Nat.isDigit_of_mem_toDigits (b := 10) (n := n) (by omega) (by omega) (by simp [h])

/-- A whole number is read back when nothing follows that could belong to it. -/
theorem number?_intText (n : Int) {rest : List Char} (hr : Quiet rest) :
    number? ((intText n).toList ++ rest) = some (.int n, rest) := by
  unfold intText Binary64.digitsText
  by_cases hn : n < 0
  · have hneg : -(n.natAbs : Int) = n := by omega
    have htext : ("-" ++ String.ofList (Nat.toDigits 10 n.natAbs)).toList ++ rest =
        '-' :: (Nat.toDigits 10 n.natAbs ++ rest) := by simp
    rw [if_pos hn, htext, number?, unsigned?_toDigits true n.natAbs hr]
    simp only [if_true, hneg]
  · have hpos : (n.natAbs : Int) = n := by omega
    obtain ⟨c, cs, hc, -⟩ := toDigits_shape n.natAbs
    have hminus : c ≠ '-' := by
      rintro rfl
      exact absurd (toDigits_head hc) (by decide)
    rw [if_neg hn, String.toList_ofList, number?.eq_def]
    split
    · rename_i h
      rw [hc, List.cons_append, List.cons.injEq] at h
      exact absurd h.1 hminus
    · rw [unsigned?_toDigits false n.natAbs hr]
      simp [hpos]

end LinkShelf.Json

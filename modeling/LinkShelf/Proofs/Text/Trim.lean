import LinkShelf.Text.Trim
import Mathlib.Data.List.TakeWhile
/-!
A trimmed text is trimmed, and it is empty just when nothing but blanks was there.
-/
namespace LinkShelf.Text

theorem dropWhile_idem (p : Char → Bool) (cs : List Char) :
    (cs.dropWhile p).dropWhile p = cs.dropWhile p := by
  induction cs with
  | nil => rfl
  | cons c cs ih => cases h : p c <;> simp [h, ih]

theorem trimRightBy_idem (p : Char → Bool) (cs : List Char) :
    trimRightBy p (trimRightBy p cs) = trimRightBy p cs := by
  simp [trimRightBy, dropWhile_idem]

/-- A text that starts with no blank still does so when its end is trimmed. -/
theorem dropWhile_trimRightBy (p : Char → Bool) (cs : List Char) (h : cs.dropWhile p = cs) :
    (trimRightBy p cs).dropWhile p = trimRightBy p cs := by
  cases cs with
  | nil => rfl
  | cons c cs =>
    have hc : p c = false := by
      cases hp : p c with
      | false => rfl
      | true =>
        have := congrArg List.length h
        have hle : (cs.dropWhile p).length ≤ cs.length := (List.dropWhile_sublist p).length_le
        simp [hp] at this
        omega
    have hlast : (c :: cs).reverse.dropWhile p = cs.reverse.dropWhile p ++ [c] := by
      rw [List.reverse_cons, List.dropWhile_append]
      split
      · rename_i hempty
        simp only [List.isEmpty_iff] at hempty
        simp [hempty, hc]
      · rfl
    rw [trimRightBy, hlast]
    simp [hc]

theorem trimChars_idem (cs : List Char) : trimChars (trimChars cs) = trimChars cs := by
  unfold trimChars trimBy
  rw [dropWhile_trimRightBy isBlank _ (dropWhile_idem isBlank cs), trimRightBy_idem]

@[simp] theorem trim_trim (s : String) : trim (trim s) = trim s := by
  simp [trim, trimChars_idem]

/-- Trimming takes the blanks away from around a text that neither starts nor ends with one. -/
theorem trimChars_padded {sp sp' : List Char} {c d : Char} (hsp : ∀ x ∈ sp, isBlank x = true)
    (hsp' : ∀ x ∈ sp', isBlank x = true) (hc : isBlank c = false) (hd : isBlank d = false)
    (cs : List Char) :
    trimChars (sp ++ (c :: (cs ++ d :: sp'))) = c :: (cs ++ [d]) := by
  have hdrop : (sp ++ (c :: (cs ++ d :: sp'))).dropWhile isBlank = c :: (cs ++ d :: sp') := by
    rw [List.dropWhile_append_of_pos hsp]
    simp [hc]
  have hreverse : (c :: (cs ++ d :: sp')).reverse = sp'.reverse ++ d :: (cs.reverse ++ [c]) := by
    simp
  have hdrop' : (sp'.reverse ++ d :: (cs.reverse ++ [c])).dropWhile isBlank =
      d :: (cs.reverse ++ [c]) := by
    rw [List.dropWhile_append_of_pos fun x hx => hsp' x (List.mem_reverse.mp hx)]
    simp [hd]
  rw [trimChars, trimBy, hdrop, trimRightBy, hreverse, hdrop']
  simp

/-- Trimming leaves nothing just where there was nothing but blanks. -/
theorem trim_eq_empty_iff {s : String} : trim s = "" ↔ blank s = true := by
  constructor
  · intro h
    have htrim : trimChars s.toList = [] := by
      have := congrArg String.toList h
      simpa [trim] using this
    have hdrop : s.toList.dropWhile isBlank = [] := by
      cases hd : s.toList.dropWhile isBlank with
      | nil => rfl
      | cons c cs =>
        have hc : isBlank c = false := by
          have := List.head?_dropWhile_not isBlank s.toList
          simpa [hd] using this
        have hall : ∀ x ∈ c :: cs, isBlank x = true := by
          rw [trimChars, trimBy, hd, trimRightBy, List.reverse_eq_nil_iff,
            List.dropWhile_eq_nil_iff] at htrim
          exact fun x hx => htrim x (List.mem_reverse.mpr hx)
        simp [hall c (by simp)] at hc
    exact List.all_eq_true.mpr (List.dropWhile_eq_nil_iff.mp hdrop)
  · intro h
    have hdrop : s.toList.dropWhile isBlank = [] := by
      rw [List.dropWhile_eq_nil_iff]
      exact fun c hc => List.all_eq_true.mp h c hc
    simp [trim, trimChars, trimBy, hdrop, trimRightBy]

section Plain

variable {c : Char} {cs : List Char}

/-- From the space up, no blank comes before the next line control of Latin text. -/
theorem not_isBlank_of_bounds (hlow : 0x20 < c.toNat) (hhigh : c.toNat < 0x85) :
    isBlank c = false := by
  simp [isBlank, blankRanges, Ranges.has]
  omega

theorem digit_bounds (h : c.isDigit = true) : 48 ≤ c.toNat ∧ c.toNat ≤ 57 := by
  simp only [Char.isDigit, ge_iff_le, UInt32.le_iff_toNat_le, Char.reduceVal,
    UInt32.reduceToNat, Bool.and_eq_true, decide_eq_true_eq] at h
  exact h

theorem dropWhile_of_none {p : Char → Bool} (h : ∀ c ∈ cs, p c = false) : cs.dropWhile p = cs := by
  cases cs with
  | nil => rfl
  | cons c cs => simp [h c (by simp)]

/-- Nothing is trimmed off a text without such characters. -/
theorem trimBy_of_none {p : Char → Bool} (h : ∀ c ∈ cs, p c = false) : trimBy p cs = cs := by
  have hreverse : cs.reverse.dropWhile p = cs.reverse :=
    dropWhile_of_none fun c hc => h c (List.mem_reverse.mp hc)
  rw [trimBy, dropWhile_of_none h, trimRightBy, hreverse, List.reverse_reverse]

end Plain

end LinkShelf.Text

import Mathlib.Data.List.Infix
/-!
Where a piece of a text can stand that lacks some character of it.
-/
namespace LinkShelf.Text

variable {k xs ys : List Char} {c : Char}

theorem prefix_start (h : k <+: c :: ys) (hc : c ∉ k) : k = [] := by
  cases k with
  | nil => rfl
  | cons d k =>
    obtain ⟨rfl, -⟩ := List.cons_prefix_cons.mp h
    exact (hc List.mem_cons_self).elim

/-- The start of a text does not reach a character that is not in it. -/
theorem prefix_split (h : k <+: xs ++ c :: ys) (hc : c ∉ k) : k <+: xs := by
  induction xs generalizing k with
  | nil => rw [prefix_start h hc]
  | cons x xs ih =>
    cases k with
    | nil => exact List.nil_prefix
    | cons d k =>
      obtain ⟨rfl, htail⟩ := List.cons_prefix_cons.mp h
      exact List.cons_prefix_cons.mpr ⟨rfl, ih htail fun hm => hc (List.mem_cons_of_mem _ hm)⟩

/-- A piece of two texts starts in the one or in the other. -/
theorem infix_append_cases (h : k <:+: xs ++ ys) :
    k <:+: ys ∨ ∃ s, s <:+ xs ∧ s ≠ [] ∧ k <+: s ++ ys := by
  induction xs with
  | nil => exact .inl h
  | cons x xs ih =>
    rcases List.infix_cons_iff.mp h with hp | h
    · exact .inr ⟨x :: xs, List.suffix_rfl, List.cons_ne_nil _ _, hp⟩
    · rcases ih h with h | ⟨s, hs, hne, hp⟩
      · exact .inl h
      · exact .inr ⟨s, hs.trans (List.suffix_cons x xs), hne, hp⟩

/-- A piece without a certain character stands on one side of it. -/
theorem infix_split (h : k <:+: xs ++ c :: ys) (hc : c ∉ k) : k <:+: xs ∨ k <:+: ys := by
  rcases infix_append_cases h with h | ⟨s, hs, -, hp⟩
  · rcases List.infix_cons_iff.mp h with hp | h
    · rw [prefix_start hp hc]
      exact .inl List.nil_infix
    · exact .inr h
  · exact .inl ((prefix_split hp hc).isInfix.trans hs.isInfix)

end LinkShelf.Text

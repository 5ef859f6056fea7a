import LinkShelf.Text.Find
import LinkShelf.Text.Lower
import Mathlib.Data.List.Infix
/-!
Lower case of a piece of a text. A character is lowered by itself, but for a capital sigma, which
looks at the word around it. So a piece is lowered in its place as it is alone just if each capital
sigma in it ends a word there where it ends one in the piece.
-/
namespace LinkShelf.Text

variable {seen seen' after after' xs pre piece post : List Char}

/-- A capital sigma ends a word if a cased letter is before it, nearest first, and none after it. -/
def endsWord (before after : List Char) : Bool := nearCased before && !nearCased after

/-- Lower case of a piece, `seen` and `after` being what stands around it. -/
def lowerBetween (seen after : List Char) : List Char → List Char
  | [] => []
  | c :: rest =>
    (if c = '\u03A3' then [if endsWord seen (rest ++ after) then '\u03C2' else '\u03C3']
    else lowerChar c) ++ lowerBetween (c :: seen) after rest

theorem lowerFrom_append (seen xs ys : List Char) :
    lowerFrom seen (xs ++ ys) = lowerBetween seen ys xs ++ lowerFrom (xs.reverse ++ seen) ys := by
  induction xs generalizing seen with
  | nil => rfl
  | cons x xs ih => simp [lowerFrom, lowerBetween, endsWord, ih]

theorem lowerBetween_nil (seen xs : List Char) : lowerBetween seen [] xs = lowerFrom seen xs := by
  have happend := lowerFrom_append seen xs []
  rw [List.append_nil, lowerFrom, List.append_nil] at happend
  exact happend.symm

/-- What stands around a piece does not change its length. -/
theorem length_lowerBetween (seen after seen' after' xs : List Char) :
    (lowerBetween seen after xs).length = (lowerBetween seen' after' xs).length := by
  induction xs generalizing seen seen' with
  | nil => rfl
  | cons x xs ih =>
    rw [lowerBetween, lowerBetween, List.length_append, List.length_append,
      ih (x :: seen) (x :: seen')]
    split <;> rfl

/-- Only the capital sigmas of a piece tell what stands around it. -/
theorem lowerBetween_eq_iff : lowerBetween seen after xs = lowerBetween seen' after' xs ↔
    ∀ u v, xs = u ++ '\u03A3' :: v →
      endsWord (u.reverse ++ seen) (v ++ after) = endsWord (u.reverse ++ seen') (v ++ after') := by
  induction xs generalizing seen seen' with
  | nil => simp [lowerBetween]
  | cons x xs ih =>
    have hhead : ((if x = '\u03A3' then [if endsWord seen (xs ++ after) then '\u03C2' else '\u03C3']
          else lowerChar x) =
        if x = '\u03A3' then [if endsWord seen' (xs ++ after') then '\u03C2' else '\u03C3']
          else lowerChar x) ↔
        (x = '\u03A3' → endsWord seen (xs ++ after) = endsWord seen' (xs ++ after')) := by
      by_cases hx : x = '\u03A3'
      · simp only [hx, if_true, forall_const]
        cases endsWord seen (xs ++ after) <;> cases endsWord seen' (xs ++ after') <;> decide
      · simp [hx]
    have hlength := length_lowerBetween (x :: seen) after (x :: seen') after' xs
    rw [lowerBetween, lowerBetween]
    constructor
    · intro h
      obtain ⟨hfirst, hrest⟩ := List.append_inj' h hlength
      rw [hhead] at hfirst
      rw [ih] at hrest
      intro u v huv
      cases u with
      | nil =>
        obtain ⟨rfl, rfl⟩ := List.cons.inj huv
        exact hfirst rfl
      | cons y u =>
        obtain ⟨rfl, rfl⟩ := List.cons.inj huv
        simpa using hrest u v rfl
    · intro h
      have hrest : lowerBetween (x :: seen) after xs = lowerBetween (x :: seen') after' xs := by
        refine ih.mpr fun u v huv => ?_
        subst huv
        simpa using h (x :: u) v rfl
      rw [hrest, hhead.mpr fun hx => h [] xs (by rw [hx]; rfl)]

/-- Every capital sigma of a piece ends a word in its place just if it ends one in the piece
alone. -/
def Settled (pre piece post : List Char) : Prop :=
  ∀ u v, piece = u ++ '\u03A3' :: v →
    endsWord (u.reverse ++ pre.reverse) (v ++ post) = endsWord u.reverse v

theorem settled_iff :
    Settled pre piece post ↔ lowerBetween pre.reverse post piece = lowerChars piece := by
  rw [lowerChars, ← lowerBetween_nil, lowerBetween_eq_iff]
  simp [Settled]

theorem settled_of_not_mem (h : '\u03A3' ∉ piece) (pre post : List Char) :
    Settled pre piece post := by
  rintro u v rfl
  exact (h (by simp)).elim

/-- Characters that do not count are passed over on the way to a cased letter. -/
theorem nearCased_append (xs ys : List Char) :
    nearCased (xs ++ ys) = if xs.all isCaseIgnorable then nearCased ys else nearCased xs := by
  induction xs with
  | nil => rfl
  | cons x xs ih =>
    cases hx : isCaseIgnorable x with
    | true => simpa [nearCased, hx] using ih
    | false => simp [nearCased, hx]

theorem nearCased_of_all (h : xs.all isCaseIgnorable = true) : nearCased xs = false := by
  have hall := nearCased_append xs []
  rw [List.append_nil, if_pos h] at hall
  exact hall

/-- A piece that no word of the text runs into or out of is settled. -/
theorem settled_of_apart (hpre : nearCased pre.reverse = false) (hpost : nearCased post = false) :
    Settled pre piece post := by
  have hout (xs ys : List Char) (hys : nearCased ys = false) :
      nearCased (xs ++ ys) = nearCased xs := by
    rw [nearCased_append]
    split
    · rename_i hall
      rw [hys, nearCased_of_all hall]
    · rfl
  intro u v _
  rw [endsWord, endsWord, hout _ _ hpre, hout _ _ hpost]

theorem occurs_iff {needle cs : List Char} : occurs needle cs = true ↔ needle <:+: cs := by
  induction cs with
  | nil => simp [occurs]
  | cons c cs ih => rw [occurs, Bool.or_eq_true, ih, List.isPrefixOf_iff_prefix, List.infix_cons_iff]

theorem toList_lower (s : String) : (lower s).toList = lowerFrom [] s.toList := by
  rw [lower, String.toList_ofList, lowerChars]

/-- A settled piece of a text is a piece of the lowered text. -/
theorem contains_lower {s value : String} (hs : s.toList = pre ++ value.toList ++ post)
    (h : Settled pre value.toList post) : contains (lower s) (lower value) = true := by
  rw [contains, occurs_iff, toList_lower, toList_lower, hs, List.append_assoc, lowerFrom_append,
    lowerFrom_append, List.append_nil, settled_iff.mp h, lowerChars, ← List.append_assoc]
  exact List.infix_append _ _ _

/-- A start of a text starts the lowered text just if it is settled. -/
theorem startsWith_lower {s value : String} (hs : s.toList = value.toList ++ post) :
    startsWith (lower s) (lower value) = true ↔ Settled [] value.toList post := by
  have hlength := length_lowerBetween [] post [] [] value.toList
  rw [lowerBetween_nil] at hlength
  rw [startsWith, List.isPrefixOf_iff_prefix, toList_lower, toList_lower, hs, lowerFrom_append,
    settled_iff, List.reverse_nil, lowerChars]
  constructor
  · intro h
    have hprefix := List.prefix_of_prefix_length_le (List.prefix_append _ _) h
      (Nat.le_of_eq hlength)
    exact hprefix.eq_of_length hlength
  · intro h
    rw [h]
    exact List.prefix_append _ _

end LinkShelf.Text

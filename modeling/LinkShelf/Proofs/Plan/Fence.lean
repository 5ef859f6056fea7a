import LinkShelf.Plan.Reply
import LinkShelf.Proofs.Json.Grammar
import LinkShelf.Proofs.Text.Piece
/-!
Where a text is cut at its fences. A literal in which every backtick stands for itself is cut where
the text that it quotes is cut.
-/
namespace LinkShelf.Reply

open LinkShelf.Json (Quotes firstMark firstMark_append firstMark_cons)

def backtick : Char := Char.ofNat 96

variable {cs pre post a b x y : List Char} {c : Char} {n : Nat}

section Cut

/-- A text is cut at a fence if it has one. -/
theorem cutFence_eq_none : cutFence cs = none ↔ ¬fence <:+: cs := by
  induction cs with
  | nil => simp [cutFence, fence]
  | cons c cs ih =>
    rw [cutFence, List.infix_cons_iff, not_or, ← ih]
    split
    · rename_i hp
      simp [List.isPrefixOf_iff_prefix.mp hp]
    · rename_i hp
      have hnot : ¬fence <+: c :: cs := fun h => hp (List.isPrefixOf_iff_prefix.mpr h)
      simp [hnot]

theorem no_fence_of_not_mem (h : backtick ∉ cs) : ¬fence <:+: cs :=
  fun hin => h (hin.mem List.mem_cons_self)

theorem cutFence_start (h : fence <+: cs) : cutFence cs = some ([], cs.drop 3) := by
  cases cs with
  | nil => simp [fence] at h
  | cons c cs => rw [cutFence, if_pos (List.isPrefixOf_iff_prefix.mpr h)]

theorem cutFence_cons (h : ¬fence <+: c :: cs) :
    cutFence (c :: cs) = (cutFence cs).map fun (x, y) => (c :: x, y) := by
  rw [cutFence, if_neg fun hp => h (List.isPrefixOf_iff_prefix.mp hp)]

/-- The cut is at the first fence: none is over before the third character of that one. -/
theorem cutFence_eq_some :
    cutFence cs = some (x, y) ↔
      cs = x ++ (fence ++ y) ∧ ¬fence <:+: x ++ [backtick, backtick] := by
  have hshort : ¬fence <:+: [backtick, backtick] := fun h => absurd h.length_le (by decide)
  have hstop : [backtick, backtick] <+: fence ++ y := ⟨backtick :: y, rfl⟩
  induction cs generalizing x with
  | nil => simp [cutFence, fence]
  | cons c cs ih =>
    by_cases hp : fence <+: c :: cs
    · rw [cutFence_start hp]
      obtain ⟨rest, hrest⟩ := hp
      rw [← hrest, Option.some.injEq, Prod.mk.injEq, show (fence ++ rest).drop 3 = rest from rfl]
      constructor
      · rintro ⟨rfl, rfl⟩
        exact ⟨rfl, hshort⟩
      · rintro ⟨heq, hfirst⟩
        cases x with
        | nil => exact ⟨rfl, List.append_cancel_left heq⟩
        | cons d x =>
          -- the text starts with a fence, which would be over too early
          have hlong : (d :: x) ++ [backtick, backtick] <+: fence ++ rest := by
            rw [heq]
            exact (List.prefix_append_right_inj _).mpr hstop
          have hearly : fence <+: (d :: x) ++ [backtick, backtick] :=
            List.prefix_of_prefix_length_le (List.prefix_append ..) hlong (by simp [fence])
          exact (hfirst hearly.isInfix).elim
    · rw [cutFence_cons hp]
      cases x with
      | nil =>
        refine ⟨fun h => ?_, fun h => (hp ?_).elim⟩
        · cases hcut : cutFence cs <;> simp [hcut] at h
        · rw [h.1]
          exact List.prefix_append ..
      | cons d x =>
        have hcons : ((cutFence cs).map fun (x, y) => (c :: x, y)) = some (d :: x, y) ↔
            c = d ∧ cutFence cs = some (x, y) := by
          cases cutFence cs with
          | none => simp
          | some p => simp [Prod.ext_iff, and_assoc]
        have hrest : cutFence cs = some (x, y) ↔
            cs = x ++ (fence ++ y) ∧ ¬fence <:+: x ++ [backtick, backtick] := ih
        rw [hcons, hrest, List.cons_append, List.cons_append, List.cons.injEq, List.infix_cons_iff,
          not_or, and_assoc]
        refine and_congr_right fun hcd => and_congr_right fun hcs => ?_
        have hlater : ¬fence <+: d :: (x ++ [backtick, backtick]) := by
          intro h
          refine hp (h.trans ?_)
          rw [hcd, hcs]
          exact (List.prefix_append_right_inj (d :: x)).mpr hstop
        simp [hlater]

/-- A text without backticks can be put in front. -/
theorem cutFence_unticked (h : backtick ∉ pre) (cs : List Char) :
    cutFence (pre ++ cs) = (cutFence cs).map fun (x, y) => (pre ++ x, y) := by
  induction pre with
  | nil => simp
  | cons c pre ih =>
    rw [List.mem_cons, not_or] at h
    have hp : ¬fence <+: c :: (pre ++ cs) := fun hp => h.1 (List.cons_prefix_cons.mp hp).1
    rw [List.cons_append, cutFence_cons hp, ih h.2, Option.map_map]
    rfl

/-- No fence goes beyond any other character. -/
theorem fence_infix_split (hc : c ≠ backtick) :
    fence <:+: a ++ c :: b ↔ fence <:+: a ∨ fence <:+: b := by
  have hnot : c ∉ fence := fun h => hc (List.eq_of_mem_replicate h)
  refine ⟨fun h => Text.infix_split h hnot, fun h => ?_⟩
  rcases h with h | h
  · exact h.trans (List.prefix_append ..).isInfix
  · exact h.trans ((List.suffix_cons ..).trans (List.suffix_append ..)).isInfix

/-- Without a fence in front of it, a text is cut where it is cut alone. -/
theorem cutFence_leading (hc : c ≠ backtick) (hpre : ¬fence <:+: pre) (cs : List Char) :
    cutFence (pre ++ c :: cs) = (cutFence cs).map fun (x, y) => (pre ++ c :: x, y) := by
  cases hcut : cutFence cs with
  | none =>
    rw [Option.map_none, cutFence_eq_none, fence_infix_split hc]
    exact not_or.mpr ⟨hpre, cutFence_eq_none.mp hcut⟩
  | some p =>
    obtain ⟨x, y⟩ := p
    obtain ⟨rfl, hfirst⟩ := cutFence_eq_some.mp hcut
    rw [Option.map_some, cutFence_eq_some]
    refine ⟨by simp, ?_⟩
    rw [List.append_assoc, List.cons_append, fence_infix_split hc]
    exact not_or.mpr ⟨hpre, hfirst⟩

theorem cutFence_ending (hc : c ≠ backtick) (hpost : ¬fence <:+: post) (cs : List Char) :
    cutFence (cs ++ c :: post) = (cutFence cs).map fun (x, y) => (x, y ++ c :: post) := by
  cases hcut : cutFence cs with
  | none =>
    rw [Option.map_none, cutFence_eq_none, fence_infix_split hc]
    exact not_or.mpr ⟨cutFence_eq_none.mp hcut, hpost⟩
  | some p =>
    obtain ⟨x, y⟩ := p
    obtain ⟨rfl, hfirst⟩ := cutFence_eq_some.mp hcut
    rw [Option.map_some, cutFence_eq_some]
    exact ⟨by simp, hfirst⟩

end Cut

section Block

/-- What stands between the first two fences. -/
def between? (cs : List Char) : Option (List Char) :=
  (cutFence cs).bind fun (_, body) => (cutFence body).map Prod.fst

/-- Without a language tag and the end of its line. -/
def afterTag (cs : List Char) : List Char := dropNewline (cs.dropWhile isLetter)

def blockOf (cs : List Char) : List Char := (dropNewline (afterTag cs).reverse).reverse

theorem dropNewline_suffix (cs : List Char) :
    ∃ p, cs = p ++ dropNewline cs ∧ ∀ c ∈ p, c = '\n' := by
  unfold dropNewline
  split
  · exact ⟨['\n'], rfl, by simp⟩
  · exact ⟨[], rfl, by simp⟩

theorem afterTag_suffix (cs : List Char) :
    ∃ p, cs = p ++ afterTag cs ∧ ∀ c ∈ p, isLetter c = true ∨ c = '\n' := by
  obtain ⟨p, hp, hnewline⟩ := dropNewline_suffix (cs.dropWhile isLetter)
  refine ⟨cs.takeWhile isLetter ++ p, ?_, fun c hc => ?_⟩
  · rw [afterTag, List.append_assoc, ← hp, List.takeWhile_append_dropWhile]
  · rcases List.mem_append.mp hc with hc | hc
    · exact .inl (List.all_eq_true.mp List.all_takeWhile c hc)
    · exact .inr (hnewline c hc)

/-- A tag ends before the next fence. -/
theorem afterTag_fence (x y : List Char) :
    afterTag (x ++ (fence ++ y)) = afterTag x ++ (fence ++ y) := by
  have hletters :
      (x ++ (fence ++ y)).dropWhile isLetter = x.dropWhile isLetter ++ (fence ++ y) := by
    rw [List.dropWhile_append]
    split
    · rename_i hempty
      rw [List.isEmpty_iff.mp hempty, List.nil_append]
      rfl
    · rfl
  rw [afterTag, hletters, afterTag]
  cases x.dropWhile isLetter with
  | nil => rfl
  | cons c cs =>
    rw [List.cons_append]
    by_cases hc : c = '\n'
    · rw [hc]
      rfl
    · simp [dropNewline, hc]

theorem cutFence_afterTag (cs : List Char) :
    cutFence (afterTag cs) = (cutFence cs).map fun (x, y) => (afterTag x, y) := by
  cases hcut : cutFence cs with
  | none =>
    obtain ⟨p, hp, -⟩ := afterTag_suffix cs
    rw [Option.map_none, cutFence_eq_none]
    intro h
    refine cutFence_eq_none.mp hcut ?_
    rw [hp]
    exact h.trans (List.suffix_append ..).isInfix
  | some q =>
    obtain ⟨x, y⟩ := q
    obtain ⟨rfl, hfirst⟩ := cutFence_eq_some.mp hcut
    obtain ⟨p, hp, -⟩ := afterTag_suffix x
    rw [Option.map_some, cutFence_eq_some, afterTag_fence]
    refine ⟨rfl, fun h => hfirst ?_⟩
    rw [hp, List.append_assoc]
    exact h.trans (List.suffix_append ..).isInfix

/-- The content of the first fenced block is made of what stands between the first two fences. -/
theorem fenced?_eq (cs : List Char) : fenced? cs = (between? cs).map blockOf := by
  unfold fenced? between?
  cases cutFence cs with
  | none => rfl
  | some p =>
    obtain ⟨x, body⟩ := p
    show ((cutFence (afterTag body)).bind _) = _
    rw [cutFence_afterTag]
    show _ = ((cutFence body).map Prod.fst).map blockOf
    cases cutFence body <;> rfl

theorem fenced?_of_no_fence (h : ¬fence <:+: cs) : fenced? cs = none := by
  rw [fenced?, cutFence_eq_none.mpr h]
  rfl

/-- What is taken off at the ends of a block are letters and newlines, no marks. -/
theorem firstMark_blockOf (cs : List Char) : firstMark (blockOf cs) = firstMark cs := by
  have hletter : ∀ {c : Char}, isLetter c = true ∨ c = '\n' → c ≠ '"' ∧ c ≠ '\\' := by
    rintro c (hc | rfl)
    · constructor <;>
      · rintro rfl
        revert hc
        decide
    · decide
  have hnone : ∀ {p : List Char}, (∀ c ∈ p, isLetter c = true ∨ c = '\n') →
      firstMark p = none := by
    intro p hp
    refine List.find?_eq_none.mpr fun c hc => ?_
    simp [hletter (hp c hc)]
  obtain ⟨p, hp, hletters⟩ := afterTag_suffix cs
  obtain ⟨q, hq, hnewline⟩ := dropNewline_suffix (afterTag cs).reverse
  have hend : afterTag cs = blockOf cs ++ q.reverse := by
    rw [blockOf, ← List.reverse_append, ← hq, List.reverse_reverse]
  have hq : firstMark q.reverse = none :=
    hnone fun c hc => .inr (hnewline c (List.mem_reverse.mp hc))
  conv_rhs => rw [hp, hend, firstMark_append, firstMark_append, hnone hletters, hq]
  simp

/-- The quotes around a literal do not belong to a fence. -/
theorem between?_quoted (hpre : ¬fence <:+: pre) (hpost : ¬fence <:+: post) (b : List Char) :
    between? (pre ++ '"' :: (b ++ '"' :: post)) = between? b := by
  have hq : '"' ≠ backtick := by decide
  unfold between?
  rw [cutFence_leading hq hpre, cutFence_ending hq hpost]
  cases cutFence b with
  | none => rfl
  | some p =>
    obtain ⟨x, y⟩ := p
    simp only [Option.map_some, Option.bind_some]
    rw [cutFence_ending hq hpost, Option.map_map]
    rfl

end Block

section Inscription

/-- A text and what is written for it: a quote or a backslash by an escape, a backtick as itself,
and any other character in either way. -/
inductive Inscribed : List Char → List Char → Prop where
  | nil : Inscribed [] []
  | raw {c : Char} {a b : List Char} (hq : c ≠ '"') (hb : c ≠ '\\') (rest : Inscribed a b) :
      Inscribed (c :: a) (c :: b)
  | escaped {c : Char} {e a b : List Char} (hc : c ≠ backtick) (he : backtick ∉ e)
      (rest : Inscribed a b) : Inscribed (c :: a) ('\\' :: (e ++ b))

/-- Escapes have no backticks, so that what is written has as many as the text only if each stands
for itself. -/
structure Counted (a b : List Char) : Prop where
  le : b.count backtick ≤ a.count backtick
  inscribed : b.count backtick = a.count backtick → Inscribed a b

theorem Counted.escaped {e : List Char} (he : backtick ∉ e) (h : Counted a b) (c : Char) :
    Counted (c :: a) ('\\' :: (e ++ b)) := by
  have hcount : ('\\' :: (e ++ b)).count backtick = b.count backtick := by
    rw [List.count_cons_of_ne (by decide), List.count_append, List.count_eq_zero_of_not_mem he,
      Nat.zero_add]
  have hle := h.le
  refine ⟨?_, fun heq => ?_⟩
  · rw [hcount, List.count_cons]
    omega
  · rw [hcount] at heq
    by_cases hc : c = backtick
    · rw [hc, List.count_cons_self] at heq
      omega
    · rw [List.count_cons_of_ne hc] at heq
      exact .escaped hc he (h.inscribed heq)

theorem not_mem_codePoint {a b c d : Char} {n : Nat} (h : Json.hex4? a b c d = some n) :
    backtick ∉ ['u', a, b, c, d] := by
  have hdigit : Text.hexDigit? backtick = none := by decide
  simp only [List.mem_cons, List.not_mem_nil, or_false]
  rintro (hu | rfl | rfl | rfl | rfl)
  · revert hu
    decide
  all_goals simp [Json.hex4?, hdigit] at h

theorem counted_quotes (h : Quotes a b) : Counted a b := by
  induction h with
  | nil => exact ⟨Nat.le_refl _, fun _ => .nil⟩
  | @raw c a b hq hb _ _ ih =>
    have hle := ih.le
    refine ⟨?_, fun heq => .raw hq hb (ih.inscribed ?_)⟩
    · rw [List.count_cons, List.count_cons]
      omega
    · rw [List.count_cons, List.count_cons] at heq
      omega
  | @short c e a b he _ ih =>
    have hnot : backtick ∉ [e] := by
      rw [List.mem_singleton]
      rintro rfl
      cases he
    exact ih.escaped hnot c
  | codePoint hn _ _ ih => exact ih.escaped (not_mem_codePoint hn) _
  | @pair x y z w e f g h n m a b hn _ hm _ _ ih =>
    have hnot : backtick ∉ ['u', x, y, z, w] ++ '\\' :: ['u', e, f, g, h] := by
      intro hmem
      rcases List.mem_append.mp hmem with hmem | hmem
      · exact not_mem_codePoint hn hmem
      · exact not_mem_codePoint hm (List.mem_of_ne_of_mem (by decide) hmem)
    exact ih.escaped hnot _

/-- Such a text begins with as many backticks as what is written for it, and what follows these is
again such a pair. -/
theorem Inscribed.ticks (h : Inscribed a b) (n : Nat) :
    (List.replicate n backtick <+: b ↔ List.replicate n backtick <+: a) ∧
      (List.replicate n backtick <+: b → Inscribed (a.drop n) (b.drop n)) := by
  induction n generalizing a b with
  | zero => exact ⟨by simp, fun _ => h⟩
  | succ n ih =>
    cases h with
    | nil => simp [Inscribed.nil]
    | raw hq hb rest =>
      obtain ⟨hiff, hdrop⟩ := ih rest
      rw [List.replicate_succ, List.cons_prefix_cons, List.cons_prefix_cons, hiff]
      exact ⟨Iff.rfl, fun h => hdrop (hiff.mpr h.2)⟩
    | escaped hc he rest =>
      rw [List.replicate_succ, List.cons_prefix_cons, List.cons_prefix_cons]
      have hb : backtick ≠ '\\' := by decide
      simp [hb, Ne.symm hc]

/-- What is written for a text is cut where the text is cut. -/
theorem Inscribed.cutFence (h : Inscribed a b) :
    Option.Rel (fun p q => Inscribed p.1 q.1 ∧ Inscribed p.2 q.2) (cutFence a) (cutFence b) := by
  induction h with
  | nil => exact .none
  | @raw c a b hq hb rest ih =>
    obtain ⟨hiff, hdrop⟩ := (Inscribed.raw hq hb rest).ticks 3
    by_cases hp : fence <+: c :: b
    · rw [cutFence_start hp, cutFence_start (hiff.mp hp)]
      exact .some ⟨.nil, hdrop hp⟩
    · rw [cutFence_cons hp, cutFence_cons fun h => hp (hiff.mpr h)]
      generalize Reply.cutFence a = cut, Reply.cutFence b = cut' at ih ⊢
      cases ih with
      | none => exact .none
      | some h => exact .some ⟨.raw hq hb h.1, h.2⟩
  | @escaped c e a b hc he rest ih =>
    have hp : ¬fence <+: c :: a := fun h => hc (List.cons_prefix_cons.mp h).1.symm
    have hnot : backtick ∉ '\\' :: e := List.not_mem_cons_of_ne_of_not_mem (by decide) he
    rw [cutFence_cons hp, ← List.cons_append, cutFence_unticked hnot]
    generalize Reply.cutFence a = cut, Reply.cutFence b = cut' at ih ⊢
    cases ih with
    | none => exact .none
    | some h => exact .some ⟨.escaped hc he h.1, h.2⟩

theorem Inscribed.between? (h : Inscribed a b) :
    Option.Rel Inscribed (between? a) (between? b) := by
  have hcut := h.cutFence
  unfold Reply.between?
  generalize Reply.cutFence a = cut, Reply.cutFence b = cut' at hcut ⊢
  cases hcut with
  | none => exact .none
  | @some p q h =>
    have hcut := h.2.cutFence
    simp only [Option.bind_some]
    generalize Reply.cutFence p.2 = cut, Reply.cutFence q.2 = cut' at hcut ⊢
    cases hcut with
    | none => exact .none
    | some h => exact .some h.1

/-- Without an escape it is the text itself, and an escape comes before any quote. -/
theorem Inscribed.firstMark (h : Inscribed a b) :
    firstMark b = none ∧ a = b ∨ firstMark b = some '\\' := by
  induction h with
  | nil => exact .inl ⟨rfl, rfl⟩
  | raw hq hb _ ih =>
    rw [firstMark_cons hq hb]
    exact ih.imp_left fun ⟨hnone, heq⟩ => ⟨hnone, by rw [heq]⟩
  | escaped => exact .inr rfl

end Inscription

end LinkShelf.Reply

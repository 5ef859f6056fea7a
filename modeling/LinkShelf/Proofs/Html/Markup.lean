import LinkShelf.Html.Tree
import LinkShelf.Proofs.Html.Tag
import Mathlib.Data.List.TakeWhile
/-!
Written markup as a list of characters and marks. Reading it yields one token for each mark; how
the text between them is cut into tokens makes no difference to the tree.
-/
namespace LinkShelf.Html

/-- A character of running text or a mark. -/
inductive Atom where
  | char (c : Char)
  | mark (m : Mark)

namespace Atom

def written : Atom → List Char
  | .char c => escapeChar c
  | .mark m => m.written

def token : Atom → Token
  | .char c => .text [c]
  | .mark m => m.token

@[simp] theorem token_mark (m : Mark) : (mark m).token = m.token := rfl

/-- Running text, character by character. -/
def ofText (s : String) : List Atom := s.toList.map .char

theorem map_token_ofText (s : String) :
    (ofText s).map token = s.toList.map fun c => Token.text [c] := by
  rw [ofText, List.map_map]
  rfl

end Atom

def writing (as : List Atom) : List Char := as.flatMap Atom.written

theorem writing_ofText (s : String) : writing (Atom.ofText s) = escapeChars s.toList := by
  simp [writing, Atom.ofText, List.flatMap_map, escapeChars, Atom.written]

/-- Text as one token for each character. -/
def Token.singles : Token → List Token
  | .text cs => cs.map fun c => .text [c]
  | t => [t]

theorem Mark.singles_token (m : Mark) : m.token.singles = [m.token] := by
  have h := m.no_text
  cases ht : m.token with
  | text cs => exact (h cs ht).elim
  | _ => rfl

variable {ts ts' singles singles' : List Token}

/-- The tokens say the same as others that hold a character of text each. -/
structure Cut (ts singles : List Token) : Prop where
  same : ts.flatMap Token.singles = singles
  filled : .text [] ∉ ts

theorem Cut.append (h : Cut ts singles) (h' : Cut ts' singles') :
    Cut (ts ++ ts') (singles ++ singles') where
  same := by rw [List.flatMap_append, h.same, h'.same]
  filled := by
    rw [List.mem_append, not_or]
    exact ⟨h.filled, h'.filled⟩

theorem cut_token (a : Atom) : Cut [a.token] [a.token] := by
  cases a with
  | char c => exact ⟨rfl, by simp [Atom.token]⟩
  | mark m =>
    refine ⟨by simp [Atom.token, m.singles_token], fun h => ?_⟩
    exact m.no_text [] (List.mem_singleton.mp h).symm

theorem cut_textToken (cs : List Char) : Cut (textToken cs) (cs.map fun c => .text [c]) := by
  cases cs with
  | nil => exact ⟨rfl, by simp [textToken]⟩
  | cons c cs => exact ⟨by simp [textToken, Token.singles], by simp [textToken]⟩

section Go

variable {run : List Char} {fuel : Nat} {c : Char}

/-- What cannot be passed over as plain text is a token, whatever comes after it. -/
theorem Atom.scan (a : Atom) :
    (∃ c, a = .char c ∧ isSpecial c = false) ∨
    ∃ c cs, a.written = c :: cs ∧ (c = '<' ∨ c = '&') ∧ ∀ final rest,
      (if c = '<' then scanAngle (c :: (cs ++ rest)) else scanAmpersand final (c :: (cs ++ rest))) =
        .tokens [a.token] rest none := by
  cases a with
  | mark m =>
    obtain ⟨cs, hcs⟩ := m.written_cons
    refine .inr ⟨'<', cs, hcs, .inl rfl, fun final rest => ?_⟩
    rw [if_pos rfl, ← List.cons_append, ← hcs]
    exact m.scan rest
  | char c =>
    cases hc : isSpecial c with
    | false => exact .inl ⟨c, rfl, hc⟩
    | true =>
      obtain ⟨cs, hcs, -⟩ := reference?_escapeChar hc []
      refine .inr ⟨'&', cs, hcs, .inr rfl, fun final rest => ?_⟩
      rw [if_neg (by decide), ← List.cons_append, ← hcs]
      exact scanAmpersand_escapeChar hc final rest

theorem passes_plain (hrun : ∀ x ∈ run, isSpecial x = false) :
    ∀ x ∈ run, (x != '<' && x != '&') = true := by
  intro x hx
  have := hrun x hx
  rw [Bool.and_eq_true, bne_iff_ne, bne_iff_ne]
  constructor <;> rintro rfl <;> cases this

/-- A go passes over plain text and takes the token that comes after it. -/
theorem go_token (final : Bool) (hrun : ∀ x ∈ run, isSpecial x = false) (hc : c = '<' ∨ c = '&')
    {cs rest : List Char} {t : Token} (fuel : Nat) (done : List Token)
    (hscan : (if c = '<' then scanAngle (c :: cs) else scanAmpersand final (c :: cs)) =
      .tokens [t] rest none) :
    go final (fuel + 1) none (run ++ c :: cs) done =
      go final fuel none rest (t :: (textToken run ++ done)) := by
  have hstop : (c != '<' && c != '&') = false := by
    rcases hc with rfl | rfl <;> decide
  have htake : (run ++ c :: cs).takeWhile (fun x => x != '<' && x != '&') = run := by
    simp [List.takeWhile_append_of_pos (passes_plain hrun), hstop]
  have hdrop : (run ++ c :: cs).dropWhile (fun x => x != '<' && x != '&') = c :: cs := by
    simp [List.dropWhile_append_of_pos (passes_plain hrun), hstop]
  rw [go]
  simp only [htake, hdrop, hscan, List.reverse_singleton, List.singleton_append]

theorem textToken_reverse (cs : List Char) : (textToken cs).reverse = textToken cs := by
  cases cs <;> rfl

/-- One go takes all of it. The induction moves plain characters into the run before the rest. -/
theorem go_writing (final : Bool) (run : List Char) (as : List Atom)
    (hrun : ∀ x ∈ run, isSpecial x = false) (hfuel : (run ++ writing as).length < fuel)
    (done : List Token) :
    ∃ ts, go final fuel none (run ++ writing as) done = .ok (ts.reverse ++ done, ⟨[], none⟩) ∧
      Cut ts (run.map (fun c => .text [c]) ++ as.map Atom.token) := by
  induction as generalizing run fuel done with
  | nil =>
    obtain ⟨fuel, rfl⟩ : ∃ n, fuel = n + 1 := ⟨fuel - 1, by omega⟩
    have htake : run.takeWhile (fun x => x != '<' && x != '&') = run :=
      List.takeWhile_eq_self_iff.mpr (passes_plain hrun)
    have hdrop : run.dropWhile (fun x => x != '<' && x != '&') = [] :=
      List.dropWhile_eq_nil_iff.mpr (passes_plain hrun)
    refine ⟨textToken run, ?_, by simpa using cut_textToken run⟩
    rw [writing, List.flatMap_nil, List.append_nil, go]
    simp only [htake, hdrop, textToken_reverse]
  | cons a as ih =>
    have hsplit : writing (a :: as) = a.written ++ writing as := List.flatMap_cons
    rcases a.scan with ⟨c, rfl, hc⟩ | ⟨c, cs, hcs, hc, hscan⟩
    · have hrun' : ∀ x ∈ run ++ [c], isSpecial x = false := by
        intro x hx
        rcases List.mem_append.mp hx with hx | hx
        · exact hrun x hx
        · rwa [List.mem_singleton.mp hx]
      have hwritten : run ++ writing (.char c :: as) = run ++ [c] ++ writing as := by
        rw [hsplit, Atom.written, escapeChar_plain hc, List.append_assoc]
      rw [hwritten] at hfuel ⊢
      simpa [Atom.token] using ih _ hrun' hfuel done
    · obtain ⟨fuel, rfl⟩ : ∃ n, fuel = n + 1 := ⟨fuel - 1, by omega⟩
      rw [hsplit, hcs] at hfuel ⊢
      have hless : ([] ++ writing as).length < fuel := by
        simp only [List.length_append, List.length_cons, List.length_nil] at hfuel ⊢
        omega
      obtain ⟨ts, hts, hcut⟩ :=
        ih [] (by simp) hless (a.token :: (textToken run ++ done))
      refine ⟨textToken run ++ a.token :: ts, ?_, ?_⟩
      · rw [List.cons_append, go_token final hrun hc fuel done (hscan final (writing as))]
        simpa [textToken_reverse] using hts
      · exact (cut_textToken run).append ((cut_token a).append hcut)

end Go

/-- The tokens of written markup, but for how the text is cut. -/
theorem tokens_writing (as : List Atom) :
    ∃ ts, tokens (writing as) = .ok ts ∧ Cut ts (as.map Atom.token) := by
  obtain ⟨ts, hts, hcut⟩ :=
    go_writing false [] as (by simp) (Nat.lt_succ_self (writing as).length) []
  refine ⟨ts, ?_, hcut⟩
  -- the second go has nothing left to read
  have hlast : go true ((writing as).length + 1) none [] ts.reverse =
      .ok (ts.reverse, ⟨[], none⟩) := by
    simp [go, textToken]
  rw [List.nil_append, List.append_nil] at hts
  rw [tokens, hts]
  simp only [bind, Except.bind, hlast]
  simp [textToken, pure, Except.pure]

end LinkShelf.Html

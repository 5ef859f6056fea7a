import LinkShelf.Proofs.Json.Spelling
/-!
The texts that are read as a literal, a number or the name of a value. Whatever is read as one has
such a text in front, and such a text is read in the same way whatever follows it.
-/
namespace LinkShelf.Json

section Literals

variable {s t : List Char} {c : Char}

/-- No escape of a low surrogate comes first, with which a high one before it would make a pair. -/
def Unpaired (t : List Char) : Prop :=
  ∀ e f g h m tail, t = '\\' :: 'u' :: e :: f :: g :: h :: tail → hex4? e f g h = some m →
    isLowSurrogate m = false

/-- The characters of a literal and what is written for them in front of the closing quote. -/
inductive Quotes : List Char → List Char → Prop where
  | nil : Quotes [] []
  | raw {c : Char} {s t : List Char} (hq : c ≠ '"') (hb : c ≠ '\\') (hc : ¬c.toNat < 0x20)
      (rest : Quotes s t) : Quotes (c :: s) (c :: t)
  | short {c e : Char} {s t : List Char} (he : unescape? e = some c) (rest : Quotes s t) :
      Quotes (c :: s) ('\\' :: e :: t)
  | codePoint {a b c d : Char} {n : Nat} {s t : List Char} (hn : hex4? a b c d = some n)
      (hlone : isHighSurrogate n = true → Unpaired t) (rest : Quotes s t) :
      Quotes (charOf n :: s) ('\\' :: 'u' :: a :: b :: c :: d :: t)
  | pair {a b c d e f g h : Char} {n m : Nat} {s t : List Char} (hn : hex4? a b c d = some n)
      (hhigh : isHighSurrogate n = true) (hm : hex4? e f g h = some m)
      (hlow : isLowSurrogate m = true) (rest : Quotes s t) :
      Quotes (.ofNat (joinSurrogates n m) :: s)
        ('\\' :: 'u' :: a :: b :: c :: d :: '\\' :: 'u' :: e :: f :: g :: h :: t)

/-- Literals without a surrogate that stands alone are among them. -/
theorem SpellsChars.quotes (h : SpellsChars s t) : Quotes s t := by
  induction h with
  | nil => exact .nil
  | cons hc _ ih =>
    cases hc with
    | raw hq hb hc => exact .raw hq hb hc ih
    | short he => exact .short he ih
    | @codePoint _ _ _ _ n hn hhigh hlow =>
      have hchar : charOf n = .ofNat n := by simp [charOf, hhigh, hlow]
      rw [← hchar]
      refine .codePoint hn (fun h => ?_) ih
      rw [hhigh] at h
      cases h
    | pair hn hhigh hm hlow => exact .pair hn hhigh hm hlow ih

theorem push_ok {x : Scan (List Char)} {r : List Char} (h : push c x = .ok (s, r)) :
    ∃ s', s = c :: s' ∧ x = .ok (s', r) := by
  cases x with
  | error e => cases h
  | ok p =>
    obtain ⟨s', r'⟩ := p
    cases h
    exact ⟨s', rfl, rfl⟩

/-- What is read as a literal is one. -/
theorem literalFrom_quotes {opened cs r : List Char} (h : literalFrom opened cs = .ok (s, r)) :
    ∃ t, cs = t ++ '"' :: r ∧ Quotes s t := by
  fun_induction literalFrom opened cs generalizing s with
  | case1 | case3 | case4 | case5 | case9 | case11 | case13 | case14 => cases h
  | case2 rest =>
    cases h
    exact ⟨[], rfl, .nil⟩
  | case6 a b c d e f g x y rest n hn hhigh m hm hlow ih =>
    obtain ⟨s', rfl, hrest⟩ := push_ok h
    obtain ⟨t, ht, hs⟩ := ih hrest
    exact ⟨_ :: _ :: a :: b :: c :: d :: _ :: _ :: e :: f :: g :: x :: t, by simp [ht],
      .pair hn hhigh hm hlow hs⟩
  | case7 a b c d e f g x y rest n hn hhigh m hm hlow ih =>
    obtain ⟨s', rfl, hrest⟩ := push_ok h
    obtain ⟨t, ht, hs⟩ := ih hrest
    refine ⟨_ :: _ :: a :: b :: c :: d :: t, by simp [ht], .codePoint hn (fun _ => ?_) hs⟩
    rintro e' f' g' x' m' tail rfl hm'
    simp only [List.cons_append, List.cons.injEq, true_and] at ht
    obtain ⟨rfl, rfl, rfl, rfl, -⟩ := ht
    rw [hm, Option.some.injEq] at hm'
    rw [← hm']
    exact Bool.eq_false_iff.mpr hlow
  | case8 a b c d e f g x y rest n hn hhigh ih =>
    obtain ⟨s', rfl, hrest⟩ := push_ok h
    obtain ⟨t, ht, hs⟩ := ih hrest
    exact ⟨_ :: _ :: a :: b :: c :: d :: t, by simp [ht],
      .codePoint hn (fun h => (hhigh h).elim) hs⟩
  | case10 a b c d x rest hnext n hn ih =>
    obtain ⟨s', rfl, hrest⟩ := push_ok h
    obtain ⟨t, ht, hs⟩ := ih hrest
    refine ⟨_ :: _ :: a :: b :: c :: d :: t, by simp [ht], .codePoint hn (fun _ => ?_) hs⟩
    rintro e f g y m tail rfl -
    -- The closing quote comes after the four digits, so both escapes would have been looked at.
    obtain ⟨z, tail', hz⟩ : ∃ z tail', tail ++ '"' :: r = z :: tail' :=
      List.exists_cons_of_ne_nil (by simp)
    simp only [List.cons_append, List.cons.injEq, hz] at ht
    exact (hnext e f g y z tail' ht.1 ht.2).elim
  | case12 c rest hu hcode hlast e he ih =>
    obtain ⟨s', rfl, hrest⟩ := push_ok h
    obtain ⟨t, ht, hs⟩ := ih hrest
    exact ⟨_ :: c :: t, by simp [ht], .short he hs⟩
  | case15 c rest hq hlast _ _ _ hb hc ih =>
    obtain ⟨s', rfl, hrest⟩ := push_ok h
    obtain ⟨t, ht, hs⟩ := ih hrest
    refine ⟨c :: t, by simp [ht], .raw hq ?_ hc hs⟩
    rintro rfl
    cases rest with
    | nil => exact hlast rfl rfl
    | cons x rest => exact hb x rest rfl rfl

/-- An escape that comes first in a literal has its digits. -/
theorem Quotes.escape (h : Quotes s t) {e f g x : Char} {r rest : List Char}
    (ht : t ++ '"' :: r = '\\' :: 'u' :: e :: f :: g :: x :: rest) :
    ∃ m tail, hex4? e f g x = some m ∧ t = '\\' :: 'u' :: e :: f :: g :: x :: tail := by
  cases h with
  | nil => simp at ht
  | raw hq hb => exact (hb (List.cons.inj ht).1).elim
  | short he =>
    simp only [List.cons_append, List.cons.injEq] at ht
    rw [ht.2.1] at he
    cases he
  | codePoint hn =>
    simp only [List.cons_append, List.cons.injEq, true_and] at ht
    obtain ⟨rfl, rfl, rfl, rfl, -⟩ := ht
    exact ⟨_, _, hn, rfl⟩
  | pair hn =>
    simp only [List.cons_append, List.cons.injEq, true_and] at ht
    obtain ⟨rfl, rfl, rfl, rfl, -⟩ := ht
    exact ⟨_, _, hn, rfl⟩

/-- The escape of a character is read as the character, if no second half of a pair follows. -/
theorem literalFrom_codePoint {a b c d : Char} {n : Nat} (hn : hex4? a b c d = some n)
    (hlone : isHighSurrogate n = true → Unpaired t) (h : Quotes s t) (opened r : List Char) :
    literalFrom opened ('\\' :: 'u' :: a :: b :: c :: d :: (t ++ '"' :: r)) =
      push (charOf n) (literalFrom opened (t ++ '"' :: r)) := by
  obtain ⟨y, tail, hy⟩ : ∃ y tail, t ++ '"' :: r = y :: tail :=
    List.exists_cons_of_ne_nil (by simp)
  rw [hy]
  by_cases hpair : ∃ e f g x z rest, y :: tail = '\\' :: 'u' :: e :: f :: g :: x :: z :: rest
  · obtain ⟨e, f, g, x, z, rest, heq⟩ := hpair
    obtain ⟨m, t', hm, ht'⟩ := h.escape (hy.trans heq)
    rw [heq, literalFrom]
    simp only [hn, hm]
    by_cases hhigh : isHighSurrogate n = true
    · have hlow : isLowSurrogate m = false := hlone hhigh e f g x m t' ht' hm
      simp only [hhigh, hlow, if_true, Bool.false_eq_true, if_false]
    · simp only [hhigh, Bool.false_eq_true, if_false]
  · rw [literalFrom.eq_def]
    split <;> grind

theorem Quotes.read (h : Quotes s t) (opened r : List Char) :
    literalFrom opened (t ++ '"' :: r) = .ok (s, r) := by
  induction h with
  | nil => rfl
  | @raw c s t hq hb hc _ ih =>
    rw [List.cons_append, literalFrom.eq_def]
    split <;> grind [push]
  | @short c e s t he h ih =>
    have hu : e ≠ 'u' := by
      rintro rfl
      cases he
    simp only [List.cons_append]
    rw [literalFrom.eq_def]
    split <;> grind [push]
  | codePoint hn hlone h ih =>
    simp only [List.cons_append]
    rw [literalFrom_codePoint hn hlone h, ih]
    rfl
  | @pair a b c d e f g x n m s t hn hhigh hm hlow h ih =>
    obtain ⟨y, tail, hy⟩ : ∃ y tail, t ++ '"' :: r = y :: tail :=
      List.exists_cons_of_ne_nil (by simp)
    simp only [List.cons_append, hy]
    rw [literalFrom]
    simp only [hn, hhigh, hm, hlow, if_true]
    rw [← hy, ih]
    rfl

end Literals

section Numbers

variable {cs r : List Char} {v : Json}

/-- A text that does not go on with a digit. -/
def NoDigit (rest : List Char) : Prop := ∀ c tail, rest = c :: tail → c.isDigit = false

theorem Quiet.noDigit {rest : List Char} (h : Quiet rest) : NoDigit rest :=
  fun c tail hc => (h c tail hc).1

theorem noDigit_cons {c : Char} (h : c.isDigit = false) (tail : List Char) :
    NoDigit (c :: tail) := by
  intro d rest hd
  rw [← (List.cons.inj hd).1]
  exact h

theorem digits_stop {ds rest : List Char} (hd : ∀ c ∈ ds, c.isDigit = true) (hr : NoDigit rest) :
    (ds ++ rest).takeWhile Char.isDigit = ds ∧ (ds ++ rest).dropWhile Char.isDigit = rest := by
  have hstop : rest.takeWhile Char.isDigit = [] ∧ rest.dropWhile Char.isDigit = rest := by
    cases rest with
    | nil => exact ⟨rfl, rfl⟩
    | cons x xs => simp [hr x xs rfl]
  rw [List.takeWhile_append_of_pos hd, List.dropWhile_append_of_pos hd, hstop.1, hstop.2,
    List.append_nil]
  exact ⟨rfl, rfl⟩

theorem isDigit_takeWhile (cs : List Char) : ∀ c ∈ cs.takeWhile Char.isDigit, c.isDigit = true :=
  List.all_eq_true.mp List.all_takeWhile

/-- The characters of numbers. -/
def isNumeral (c : Char) : Bool := c.isDigit || ['-', '+', '.', 'e', 'E'].contains c

theorem isNumeral_digit {c : Char} (h : c.isDigit = true) : isNumeral c = true := by
  simp [isNumeral, h]

theorem wholeDigits_taken {ds : List Char} (h : wholeDigits cs = (ds, r)) (hne : ds ≠ []) :
    cs = ds ++ r ∧ (∀ c ∈ ds, c.isDigit = true) ∧
      ∀ rest, NoDigit rest → wholeDigits (ds ++ rest) = (ds, rest) := by
  cases cs with
  | nil =>
    cases h
    exact (hne rfl).elim
  | cons c cs =>
    rw [wholeDigits] at h
    split at h
    · rename_i hc
      cases h
      refine ⟨rfl, ?_, fun rest _ => ?_⟩
      · rw [hc]
        exact List.all_eq_true.mp rfl
      · rw [List.singleton_append, wholeDigits, if_pos hc]
    · split at h
      · rename_i hz hc
        cases h
        refine ⟨by simp, List.forall_mem_cons.mpr ⟨hc, isDigit_takeWhile cs⟩, fun rest hr => ?_⟩
        obtain ⟨htake, hdrop⟩ := digits_stop (isDigit_takeWhile cs) hr
        rw [List.cons_append, wholeDigits, if_neg hz, if_pos hc, htake, hdrop]
      · cases h
        exact (hne rfl).elim

theorem fractionDigits_taken {ds : List Char} (h : fractionDigits cs = (ds, r)) (hne : ds ≠ []) :
    cs = '.' :: (ds ++ r) ∧ (∀ c ∈ ds, c.isDigit = true) ∧
      ∀ rest, NoDigit rest → fractionDigits ('.' :: (ds ++ rest)) = (ds, rest) := by
  unfold fractionDigits at h
  split at h
  · split at h
    · cases h
      rename_i c cs hc
      refine ⟨by simp, List.forall_mem_cons.mpr ⟨hc, isDigit_takeWhile cs⟩, fun rest hr => ?_⟩
      obtain ⟨htake, hdrop⟩ := digits_stop (isDigit_takeWhile cs) hr
      rw [List.cons_append, fractionDigits, if_pos hc, htake, hdrop]
    · cases h
      exact (hne rfl).elim
  · cases h
    exact (hne rfl).elim

theorem fractionDigits_none (h : fractionDigits cs = ([], r)) : r = cs := by
  unfold fractionDigits at h
  split at h
  · split at h
    · cases h
    · cases h
      rfl
  · cases h
    rfl

theorem sign_taken {negative : Bool} (h : Numeral.sign cs = (negative, r)) :
    ∃ t, cs = t ++ r ∧ (∀ c ∈ t, isNumeral c = true) ∧
      ∀ d tail, d.isDigit = true → Numeral.sign (t ++ d :: tail) = (negative, d :: tail) := by
  unfold Numeral.sign at h
  split at h
  · cases h
    exact ⟨['-'], rfl, List.all_eq_true.mp rfl, fun d tail _ => rfl⟩
  · cases h
    exact ⟨['+'], rfl, List.all_eq_true.mp rfl, fun d tail _ => rfl⟩
  · cases h
    refine ⟨[], rfl, by simp, fun d tail hd => ?_⟩
    rw [List.nil_append, Numeral.sign.eq_def]
    split
    · rename_i heq
      rw [(List.cons.inj heq).1] at hd
      cases hd
    · rename_i heq
      rw [(List.cons.inj heq).1] at hd
      cases hd
    · rfl

/-- An exponent has a sign or none, and at least one digit. -/
theorem exponent?_taken {e : Int} (h : exponent? cs = some (e, r)) :
    ∃ x t, cs = x :: (t ++ r) ∧ (x = 'e' ∨ x = 'E') ∧ (∀ c ∈ t, isNumeral c = true) ∧
      ∀ rest, NoDigit rest → exponent? (x :: (t ++ rest)) = some (e, rest) := by
  cases cs with
  | nil => cases h
  | cons x cs =>
    rw [exponent?] at h
    split at h
    · rename_i hx
      cases hsign : Numeral.sign cs with
      | mk negative ds =>
        obtain ⟨t, rfl, ht, hread⟩ := sign_taken hsign
        rw [hsign] at h
        simp only [Numeral.digits] at h
        split at h
        · cases h
        · rename_i values rest hne heq
          obtain ⟨hvalues, rfl⟩ := Prod.mk.inj heq
          cases h
          obtain ⟨d, tail, hd⟩ : ∃ d tail, ds.takeWhile Char.isDigit = d :: tail := by
            refine List.exists_cons_of_ne_nil fun hnil => ?_
            rw [hnil] at hvalues
            exact hne hvalues.symm
          have hdigits := isDigit_takeWhile ds
          refine ⟨x, t ++ ds.takeWhile Char.isDigit, by simp, hx, ?_, fun rest hr => ?_⟩
          · intro c hc
            exact (List.mem_append.mp hc).elim (ht c) fun hc => isNumeral_digit (hdigits c hc)
          · obtain ⟨htake, hdrop⟩ := digits_stop hdigits hr
            have hsign' := hread d (tail ++ rest) (hdigits d (by simp [hd]))
            rw [← List.cons_append, ← hd] at hsign'
            rw [exponent?, if_pos hx, List.append_assoc, hsign']
            simp only [Numeral.digits, htake, hdrop, hvalues]
    · cases h

theorem noDigit_append {t rest : List Char} (ht : ∀ c tail, t = c :: tail → c.isDigit = false)
    (hr : NoDigit rest) : NoDigit (t ++ rest) := by
  cases t with
  | nil => exact hr
  | cons c tail => exact noDigit_cons (ht c tail rfl) _

/-- The fraction of a number, with the point in front of it. -/
theorem fractionDigits_text {ds : List Char} (h : fractionDigits cs = (ds, r)) :
    ∃ t, cs = t ++ r ∧ (∀ c ∈ t, isNumeral c = true) ∧ NoDigit t ∧
      (∀ c tail, t = c :: tail → c = '.') ∧
      ∀ rest, NoDigit rest → (∀ tail, rest ≠ '.' :: tail) →
        fractionDigits (t ++ rest) = (ds, rest) := by
  by_cases hds : ds = []
  · subst hds
    obtain rfl := fractionDigits_none h
    refine ⟨[], rfl, by simp, by simp [NoDigit], by simp, fun rest _ hp => ?_⟩
    rw [List.nil_append, fractionDigits.eq_def]
    split
    · exact (hp _ rfl).elim
    · rfl
  · obtain ⟨rfl, hall, hread⟩ := fractionDigits_taken h hds
    refine ⟨'.' :: ds, rfl, ?_, noDigit_cons rfl ds, by simp +contextual,
      fun rest hr _ => hread rest hr⟩
    exact List.forall_mem_cons.mpr ⟨rfl, fun c hc => isNumeral_digit (hall c hc)⟩

/-- What is written behind the sign of a number. -/
structure Magnitude (negative : Bool) (v : Json) (t : List Char) : Prop where
  digit : ∃ c tail, t = c :: tail ∧ c.isDigit = true
  numeral : ∀ c ∈ t, isNumeral c = true
  read : ∀ rest, Quiet rest → unsigned? negative (t ++ rest) = some (v, rest)

/-- The value of a number with its digits and its exponent, if it has one. -/
def numberOf (negative : Bool) (whole fraction : List Char) (exponent : Option Int) : Json :=
  let digits := Text.ofDigits 10 (digitValues (whole ++ fraction))
  match exponent with
  | some e => .float (.ofDecimal negative digits (e - fraction.length))
  | none =>
    if fraction.isEmpty then .int (if negative then -digits else digits)
    else .float (.ofDecimal negative digits (-fraction.length))

theorem unsigned?_eq (negative : Bool) {whole fraction rest rest' : List Char} (hne : whole ≠ [])
    (hw : wholeDigits cs = (whole, rest)) (hf : fractionDigits rest = (fraction, rest')) :
    unsigned? negative cs = some (match exponent? rest' with
      | some (e, rest'') => (numberOf negative whole fraction (some e), rest'')
      | none => (numberOf negative whole fraction none, rest')) := by
  unfold unsigned?
  rw [hw]
  cases whole with
  | nil => exact (hne rfl).elim
  | cons d whole =>
    simp only [hf, numberOf]
    cases exponent? rest' with
    | none => cases fraction <;> rfl
    | some p => rfl

/-- What is read as a number behind its sign is one. -/
theorem unsigned?_magnitude {negative : Bool} (h : unsigned? negative cs = some (v, r)) :
    ∃ t, cs = t ++ r ∧ Magnitude negative v t := by
  cases hw : wholeDigits cs with
  | mk whole rest₁ =>
  cases hf : fractionDigits rest₁ with
  | mk fraction rest₂ =>
  by_cases hne : whole = []
  · unfold unsigned? at h
    rw [hw, hne] at h
    cases h
  rw [unsigned?_eq negative hne hw hf, Option.some.injEq] at h
  obtain ⟨rfl, hwhole, hreadw⟩ := wholeDigits_taken hw hne
  obtain ⟨point, rfl, hpoint, hnodigit, hdot, hreadf⟩ := fractionDigits_text hf
  obtain ⟨d, whole', rfl⟩ := List.exists_cons_of_ne_nil hne
  have hnumeral : ∀ c ∈ (d :: whole') ++ point, isNumeral c = true := by
    intro c hc
    exact (List.mem_append.mp hc).elim (fun hc => isNumeral_digit (hwhole c hc)) (hpoint c)
  -- the parts are taken off in the same way when only what follows them is another
  have hread : ∀ rest, NoDigit rest → (∀ tail, rest ≠ '.' :: tail) →
      unsigned? negative ((d :: whole') ++ point ++ rest) = some (match exponent? rest with
        | some (e, rest') => (numberOf negative (d :: whole') fraction (some e), rest')
        | none => (numberOf negative (d :: whole') fraction none, rest)) := by
    intro rest hr hp
    rw [List.append_assoc]
    exact unsigned?_eq negative hne (hreadw _ (noDigit_append hnodigit hr)) (hreadf rest hr hp)
  cases he : exponent? rest₂ with
  | none =>
    simp only [he, Prod.mk.injEq] at h
    obtain ⟨rfl, rfl⟩ := h
    refine ⟨(d :: whole') ++ point, by simp, ⟨d, _, rfl, hwhole d (by simp)⟩, hnumeral, ?_⟩
    intro rest hr
    rw [hread rest hr.noDigit fun tail ht => (hr _ _ ht).2.1 rfl, exponent?_quiet hr]
  | some p =>
    obtain ⟨e, rest₃⟩ := p
    simp only [he, Prod.mk.injEq] at h
    obtain ⟨rfl, rfl⟩ := h
    obtain ⟨x, t, rfl, hx, ht, hreade⟩ := exponent?_taken he
    refine ⟨(d :: whole') ++ point ++ x :: t, by simp, ⟨d, _, rfl, hwhole d (by simp)⟩, ?_, ?_⟩
    · intro c hc
      rcases List.mem_append.mp hc with hc | hc
      · exact hnumeral c hc
      · rcases List.mem_cons.mp hc with rfl | hc
        · rcases hx with rfl | rfl <;> rfl
        · exact ht c hc
    · intro rest hr
      have hnext := hread (x :: (t ++ rest)) (noDigit_cons (by rcases hx with rfl | rfl <;> rfl) _)
        (by rcases hx with rfl | rfl <;> simp)
      simp only [hreade rest hr.noDigit] at hnext
      simpa using hnext

/-- What is read as a number is one. -/
theorem number?_text (h : number? cs = some (v, r)) :
    ∃ negative t, cs = (if negative then ['-'] else []) ++ (t ++ r) ∧ Magnitude negative v t := by
  unfold number? at h
  split at h
  · obtain ⟨t, rfl, ht⟩ := unsigned?_magnitude h
    exact ⟨true, t, rfl, ht⟩
  · obtain ⟨t, rfl, ht⟩ := unsigned?_magnitude h
    exact ⟨false, t, rfl, ht⟩

theorem Magnitude.number? {negative : Bool} {t rest : List Char} (h : Magnitude negative v t)
    (hr : Quiet rest) :
    number? ((if negative then ['-'] else []) ++ (t ++ rest)) = some (v, rest) := by
  cases negative with
  | true => exact h.read rest hr
  | false =>
    obtain ⟨c, tail, rfl, hc⟩ := h.digit
    rw [← h.read rest hr]
    simp only [Bool.false_eq_true, if_false, List.nil_append, List.cons_append]
    rw [Json.number?.eq_def]
    split
    · rename_i heq
      rw [(List.cons.inj heq).1] at hc
      cases hc
    · rfl

end Numbers

section Scalars

variable {cs r : List Char} {v : Json}

/-- Characters that neither separate, enclose nor quote. -/
def isOrdinary (c : Char) : Bool :=
  !isSpace c && !(['"', '\\', '[', ']', '\x7b', '\x7d', ',', ':', '\uFEFF'].contains c)

/-- The text of a value that is no literal, no list and no object. -/
structure Bare (v : Json) (t : List Char) : Prop where
  filled : t ≠ []
  ordinary : ∀ c ∈ t, isOrdinary c = true
  read : ∀ rest, Quiet rest → scalar (t ++ rest) = .ok (v, rest)

theorem isOrdinary_numeral {c : Char} (h : isNumeral c = true) : isOrdinary c = true := by
  rw [isNumeral, Bool.or_eq_true] at h
  rcases h with hc | hc
  · have hne : ∀ d : Char, d.isDigit = false → ¬c = d := fun d hd => digit_ne hc hd
    simp [isOrdinary, isSpace, hne ' ' rfl, hne '\t' rfl, hne '\n' rfl, hne '\r' rfl, hne '"' rfl,
      hne '\\' rfl, hne '[' rfl, hne ']' rfl, hne '\x7b' rfl, hne '\x7d' rfl, hne ',' rfl,
      hne ':' rfl, hne '\uFEFF' rfl]
  · have hall : ['-', '+', '.', 'e', 'E'].all isOrdinary = true := by decide
    exact List.all_eq_true.mp hall c (List.contains_iff_mem.mp hc)

/-- Every name of a value is read as the value, since none is the start of another. -/
theorem constants_bare : ∀ m ∈ constants, Bare m.2 m.1 := by
  have hscalar : ∀ m ∈ constants, ∀ rest, constant? (m.1 ++ rest) = some (m.2, rest) := by
    intro m hm rest
    simp only [constants, List.mem_cons, List.not_mem_nil, or_false] at hm
    rcases hm with rfl | rfl | rfl | rfl | rfl | rfl <;> rfl
  have hshape : ∀ m ∈ constants, m.1 ≠ [] ∧ m.1.all isOrdinary = true := by decide
  intro m hm
  refine ⟨(hshape m hm).1, List.all_eq_true.mp (hshape m hm).2, fun rest _ => ?_⟩
  rw [scalar, hscalar m hm]

theorem constant?_bare (h : constant? cs = some (v, r)) : ∃ t, cs = t ++ r ∧ Bare v t := by
  obtain ⟨⟨name, w⟩, hm, hfound⟩ := List.exists_of_findSome?_eq_some h
  by_cases hstart : name.isPrefixOf cs = true
  · obtain ⟨rest, rfl⟩ := List.isPrefixOf_iff_prefix.mp hstart
    simp only [hstart, if_true, List.drop_left, Option.some.injEq, Prod.mk.injEq] at hfound
    obtain ⟨rfl, rfl⟩ := hfound
    exact ⟨name, rfl, constants_bare (name, w) hm⟩
  · simp [hstart] at hfound

theorem Magnitude.constant? {negative : Bool} {t : List Char} (h : Magnitude negative v t)
    (rest : List Char) :
    constant? ((if negative then ['-'] else []) ++ (t ++ rest)) = none := by
  obtain ⟨c, tail, rfl, hc⟩ := h.digit
  have hne : ∀ d : Char, d.isDigit = false → ¬d = c := fun d hd => (digit_ne hc hd).symm
  cases negative with
  | true => simp [Json.constant?, constants, hne 'I' rfl]
  | false =>
    simp [Json.constant?, constants, hne 'n' rfl, hne 't' rfl, hne 'f' rfl, hne 'N' rfl,
      hne 'I' rfl, hne '-' rfl]

theorem Magnitude.bare {negative : Bool} {t : List Char} (h : Magnitude negative v t) :
    Bare v ((if negative then ['-'] else []) ++ t) := by
  obtain ⟨c, tail, ht, -⟩ := h.digit
  refine ⟨by simp [ht], ?_, fun rest hr => ?_⟩
  · intro c hc
    rcases List.mem_append.mp hc with hc | hc
    · cases negative with
      | true =>
        rw [List.mem_singleton.mp hc]
        decide
      | false => cases hc
    · exact isOrdinary_numeral (h.numeral c hc)
  · rw [List.append_assoc, scalar, h.constant?, h.number? hr]

/-- What is read as such a value is the text of one. -/
theorem scalar_bare (h : scalar cs = .ok (v, r)) : ∃ t, cs = t ++ r ∧ Bare v t := by
  unfold scalar at h
  split at h
  · rename_i found hfound
    cases h
    exact constant?_bare hfound
  · split at h
    · rename_i found hfound
      cases h
      obtain ⟨negative, t, rfl, ht⟩ := number?_text hfound
      exact ⟨_, (List.append_assoc ..).symm, ht.bare⟩
    · cases h

end Scalars

end LinkShelf.Json

import LinkShelf.Proofs.Html.Escape
import LinkShelf.Proofs.Text.Trim
/-!
Markup that is told apart whatever follows it: tags with escaped attributes, end tags, comments
and declarations.
-/
namespace LinkShelf.Html

variable {c : Char} {cs : List Char} {name : String} {as : Attributes}

/-- Markup that is one token other than text, whatever follows it. -/
structure Mark where
  written : List Char
  token : Token
  scan : ∀ rest, scanAngle (written ++ rest) = .tokens [token] rest none
  no_text : ∀ cs, token ≠ .text cs

theorem Mark.written_cons (m : Mark) : ∃ cs, m.written = '<' :: cs := by
  have h := m.scan []
  rw [List.append_nil] at h
  cases hw : m.written with
  | nil =>
    rw [hw] at h
    cases h
  | cons c cs =>
    by_cases hc : c = '<'
    · exact ⟨cs, by rw [hc]⟩
    · rw [hw] at h
      simp [scanAngle, hc] at h

theorem until?_append {stop : Char} (h : stop ∉ cs) (rest : List Char) :
    until? stop (cs ++ stop :: rest) = some (cs, rest) := by
  induction cs with
  | nil => simp [until?]
  | cons c cs ih =>
    rw [List.mem_cons, not_or] at h
    rw [List.cons_append, until?, if_neg (Ne.symm h.1), ih h.2]
    rfl

section Names

/-- The characters that names are made of here. -/
def isWordChar (c : Char) : Bool := isAlnum c || c = '-' || c = '_'

theorem isWordChar_bounds (h : isWordChar c = true) : 0x20 < c.toNat ∧ c.toNat < 0x85 := by
  simp only [isWordChar, Bool.or_eq_true, decide_eq_true_eq] at h
  rcases h with (h | rfl) | rfl
  · simp only [isAlnum, isLetter, Char.isDigit, Char.le_def, UInt32.le_iff_toNat_le,
      Bool.or_eq_true, Bool.and_eq_true, decide_eq_true_eq, ge_iff_le, Char.reduceVal,
      UInt32.reduceToNat] at h
    unfold Char.toNat
    omega
  · decide
  · decide

theorem not_endsTagName (h : isWordChar c = true) : endsTagName c = false := by
  rw [Bool.eq_false_iff]
  intro hc
  simp only [endsTagName, Bool.or_eq_true, decide_eq_true_eq] at hc
  rcases hc with ((((((rfl | rfl) | rfl) | rfl) | rfl) | rfl) | rfl) | rfl <;> cases h

theorem not_isBlank (h : isWordChar c = true) : Text.isBlank c = false := by
  obtain ⟨hlow, hhigh⟩ := isWordChar_bounds h
  exact Text.not_isBlank_of_bounds hlow hhigh

theorem isAttributeChar_of_word (h : isWordChar c = true) : isAttributeChar c = true := by
  rw [isAttributeChar, not_isBlank h, Bool.or_false, Bool.not_eq_true', Bool.eq_false_iff]
  intro hc
  simp only [Bool.or_eq_true, decide_eq_true_eq] at hc
  rcases hc with (rfl | rfl) | rfl <;> cases h

theorem isEndNameChar_of_word (h : isWordChar c = true) : isEndNameChar c = true := by
  simp only [isWordChar, Bool.or_eq_true] at h
  rcases h with (h | h) | h <;> simp [isEndNameChar, h]

end Names

section Opening

/-- An attribute as it is written, behind a blank. -/
def attributeText (a : String × String) : List Char :=
  ' ' :: (a.1.toList ++ '=' :: '"' :: (escapeChars a.2.toList ++ ['"']))

def openingText (name : String) (as : Attributes) : List Char :=
  '<' :: (name.toList ++ (as.flatMap attributeText ++ ['>']))

/-- The attributes as they are read, their names in lower case. -/
def Attributes.lowered (as : Attributes) : Attributes := as.map fun a => (Text.lower a.1, a.2)

/-- A name that starts with a letter. -/
def IsName (s : String) : Prop := s.toList.head?.any isLetter ∧ s.toList.all isWordChar

instance (s : String) : Decidable (IsName s) := by
  unfold IsName
  infer_instance

theorem IsName.cons (h : IsName name) : ∃ c cs, name.toList = c :: cs ∧ isLetter c = true ∧
    ∀ x ∈ c :: cs, isWordChar x = true := by
  obtain ⟨hhead, hall⟩ := h
  cases hs : name.toList with
  | nil => simp [hs] at hhead
  | cons c cs =>
    rw [hs] at hhead hall
    exact ⟨c, cs, rfl, hhead, List.all_eq_true.mp hall⟩

theorem value?_quoted {v : List Char} (h : '"' ∉ v) (rest : List Char) :
    value? ('=' :: '"' :: (v ++ '"' :: rest)) = some (v, '"', rest) := by
  have huntil := until?_append h rest
  have hsigns : Text.isBlank '=' = false ∧ Text.isBlank '"' = false := by decide
  simp [value?, hsigns, huntil]

theorem skipGap_stop (last : Char) (hslash : c ≠ '/') (hblank : Text.isBlank c = false)
    (cs : List Char) : skipGap last (c :: cs) = (last, c :: cs) := by
  rw [skipGap.eq_def]
  split <;> simp_all

theorem skipGap_blank (last : Char) (h : isWordChar c = true) (cs : List Char) :
    skipGap last (' ' :: c :: cs) = (' ', c :: cs) := by
  have hslash : c ≠ '/' := by
    rintro rfl
    cases h
  have hstop := skipGap_stop ' ' hslash (not_isBlank h) cs
  have hspace : Text.isBlank ' ' = true := by decide
  simp [skipGap, hspace, hstop]

theorem skipGap_length_le (last : Char) (cs : List Char) :
    (skipGap last cs).2.length ≤ cs.length := by
  fun_induction skipGap last cs with
  | case3 last c cs _ _ ih => exact Nat.le_succ_of_le ih
  | _ => exact Nat.le_refl _

/-- The first attribute takes its name and its value, the rest begins behind the quote. -/
theorem attributesFrom_cons {v : List Char} (hname : ∀ x ∈ c :: cs, isWordChar x = true)
    (hv : '"' ∉ v) (fuel : Nat) (rest : List Char) :
    attributesFrom (fuel + 1) ' ' (c :: (cs ++ '=' :: '"' :: (v ++ '"' :: rest))) =
      let gap := skipGap '"' rest
      let more := attributesFrom fuel gap.1 gap.2
      ((Text.lower (.ofList (c :: cs)), .ofList (resolve v)) :: more.1, more.2) := by
  have hc := hname c (by simp)
  have hopens : (opensAttribute ' ' && c != '/' && c != '>' && !Text.isBlank c) = true := by
    have hslash : c ≠ '/' ∧ c ≠ '>' := by
      constructor <;> rintro rfl <;> cases hc
    have hspace : Text.isBlank ' ' = true := by decide
    simp [opensAttribute, hslash, hspace, not_isBlank hc]
  have hchars : ∀ x ∈ cs, isAttributeChar x = true := fun x hx =>
    isAttributeChar_of_word (hname x (by simp [hx]))
  have hequals : isAttributeChar '=' = false := by decide
  rw [attributesFrom]
  simp only [hopens, if_true, List.takeWhile_append_of_pos hchars,
    List.dropWhile_append_of_pos hchars, List.takeWhile_cons, List.dropWhile_cons, hequals,
    Bool.false_eq_true, if_false, List.append_nil, value?_quoted hv, Option.getD_some]

/-- The attributes up to the end of the tag, each with its value resolved. -/
theorem attributesFrom_written (h : ∀ a ∈ as, IsName a.1) (last : Char) (fuel : Nat)
    (rest : List Char)
    (hfuel : (skipGap last (as.flatMap attributeText ++ '>' :: rest)).2.length < fuel) :
    let gap := skipGap last (as.flatMap attributeText ++ '>' :: rest)
    attributesFrom fuel gap.1 gap.2 = (as.lowered, '>' :: rest) := by
  induction as generalizing last fuel with
  | nil =>
    obtain ⟨fuel, rfl⟩ : ∃ n, fuel = n + 1 := ⟨fuel - 1, by omega⟩
    have hgap : skipGap last ('>' :: rest) = (last, '>' :: rest) :=
      skipGap_stop last (by decide) (by decide) rest
    simp [hgap, attributesFrom, Attributes.lowered]
  | cons a as ih =>
    obtain ⟨fuel, rfl⟩ : ∃ n, fuel = n + 1 := ⟨fuel - 1, by omega⟩
    obtain ⟨c, cs, hname, -, hword⟩ := (h a (by simp)).cons
    have hread : String.ofList (c :: cs) = a.1 := by rw [← hname, String.ofList_toList]
    have htext : (a :: as).flatMap attributeText ++ '>' :: rest =
        ' ' :: c :: (cs ++ '=' :: '"' :: (escapeChars a.2.toList ++ '"' ::
          (as.flatMap attributeText ++ '>' :: rest))) := by
      simp [attributeText, hname]
    rw [htext] at hfuel ⊢
    have hless : (skipGap '"' (as.flatMap attributeText ++ '>' :: rest)).2.length < fuel := by
      have := skipGap_length_le '"' (as.flatMap attributeText ++ '>' :: rest)
      simp only [skipGap_blank last (hword c (by simp)), List.length_cons,
        List.length_append] at hfuel this ⊢
      omega
    have hrest := ih (fun b hb => h b (by simp [hb])) '"' fuel hless
    simp only [skipGap_blank last (hword c (by simp)),
      attributesFrom_cons hword (quote_not_mem_escapeChars a.2.toList), hrest, hread,
      resolve_escapeChars, String.ofList_toList, Attributes.lowered, List.map_cons]

/-- A tag with its attributes, whatever follows. -/
theorem scanTag_written (hname : IsName name) (h : ∀ a ∈ as, IsName a.1) (rest : List Char) :
    scanTag (name.toList ++ (as.flatMap attributeText ++ '>' :: rest)) =
      .whole (Text.lower name) as.lowered false rest := by
  obtain ⟨c, cs, hchars, -, hword⟩ := hname.cons
  have hends : ∀ x ∈ name.toList, (!endsTagName x) = true := fun x hx => by
    rw [not_endsTagName (hword x (hchars ▸ hx))]
    rfl
  have hstop : ∃ d ds, as.flatMap attributeText ++ '>' :: rest = d :: ds ∧
      endsTagName d = true := by
    cases as with
    | nil => exact ⟨'>', rest, rfl, by decide⟩
    | cons a as => exact ⟨' ', _, rfl, by decide⟩
  obtain ⟨d, ds, hds, hd⟩ := hstop
  have hattributes := attributesFrom_written h (lastOf '<' name.toList) _ rest (Nat.lt_succ_self _)
  have htake : (name.toList ++ (as.flatMap attributeText ++ '>' :: rest)).takeWhile
      (!endsTagName ·) = name.toList := by
    rw [List.takeWhile_append_of_pos hends, hds, List.takeWhile_cons_of_neg (by simp [hd]),
      List.append_nil]
  have hdrop : (name.toList ++ (as.flatMap attributeText ++ '>' :: rest)).dropWhile
      (!endsTagName ·) = as.flatMap attributeText ++ '>' :: rest := by
    rw [List.dropWhile_append_of_pos hends, hds, List.dropWhile_cons_of_neg (by simp [hd])]
  rw [scanTag]
  simp only [htake, hdrop, hattributes, String.ofList_toList]

theorem scanAngle_openingText (hname : IsName name) (h : ∀ a ∈ as, IsName a.1)
    (hraw : isRaw (Text.lower name) = false) (rest : List Char) :
    scanAngle (openingText name as ++ rest) =
      .tokens [.opening (Text.lower name) as.lowered] rest none := by
  have hscan := scanTag_written hname h rest
  obtain ⟨c, cs, hchars, hletter, -⟩ := hname.cons
  have htext : openingText name as ++ rest =
      '<' :: (name.toList ++ (as.flatMap attributeText ++ '>' :: rest)) := by
    simp [openingText]
  rw [htext]
  rw [hchars, List.cons_append] at hscan ⊢
  have hmarks : c ≠ '/' ∧ c ≠ '!' ∧ c ≠ '?' := by
    refine ⟨?_, ?_, ?_⟩ <;> rintro rfl <;> cases hletter
  rw [scanAngle.eq_def]
  split <;> simp_all

end Opening

section Closing

def closingText (name : String) : List Char := '<' :: '/' :: (name.toList ++ ['>'])

theorem scanAngle_closingText (hname : IsName name) (rest : List Char) :
    scanAngle (closingText name ++ rest) = .tokens [.closing (Text.lower name)] rest none := by
  obtain ⟨c, cs, hchars, hletter, hword⟩ := hname.cons
  have hend : ∀ x ∈ cs, isEndNameChar x = true := fun x hx =>
    isEndNameChar_of_word (hword x (by simp [hx]))
  have hbracket : '>' ∉ c :: cs := by
    intro hm
    cases hword '>' hm
  have hstop : isEndNameChar '>' = false ∧ Text.isBlank '>' = false := by decide
  have hread : endTag? (c :: (cs ++ '>' :: rest)) = some (c :: cs, rest) := by
    simp only [endTag?, not_isBlank (hword c (by simp)), Bool.false_eq_true, if_false, if_true,
      List.dropWhile_cons, hletter, closedAfter?, List.dropWhile_append_of_pos hend,
      List.takeWhile_append_of_pos hend, List.takeWhile_cons, hstop, Option.map_some,
      List.append_nil]
  have hname : String.ofList (c :: cs) = name := by rw [← hchars, String.ofList_toList]
  have htext : closingText name ++ rest = '<' :: '/' :: (c :: cs ++ '>' :: rest) := by
    simp [closingText, hchars]
  rw [htext]
  change scanEndTag (c :: cs ++ '>' :: rest) = _
  rw [scanEndTag, until?_append hbracket rest]
  simp only [List.cons_append, hread, hname]

end Closing

section Asides

theorem afterComment?_body (h : '-' ∉ cs) (rest : List Char) :
    afterComment? (cs ++ '-' :: '-' :: '>' :: rest) = some rest := by
  induction cs with
  | nil =>
    have hstop : Text.isBlank '>' = false := by decide
    rw [List.nil_append, afterComment?]
    simp [closedAfter?, hstop]
  | cons c cs ih =>
    rw [List.mem_cons, not_or] at h
    rw [List.cons_append, afterComment?]
    · exact ih h.2
    · rintro ds rfl
      exact (h.1 rfl).elim

theorem scanAngle_comment (h : '-' ∉ cs) (rest : List Char) :
    scanAngle ('<' :: '!' :: '-' :: '-' :: (cs ++ ['-', '-', '>']) ++ rest) =
      .tokens [.aside] rest none := by
  simp [scanAngle, afterComment?_body h]

theorem scanAngle_declaration (hc : isLetter c = true) (h : '>' ∉ c :: cs) (rest : List Char) :
    scanAngle ('<' :: '!' :: (c :: cs ++ ['>']) ++ rest) = .tokens [.aside] rest none := by
  have hmarks : c ≠ '-' ∧ c ≠ '[' := by
    constructor <;> rintro rfl <;> cases hc
  have hread := until?_append h rest
  have htext : '<' :: '!' :: (c :: cs ++ ['>']) ++ rest =
      '<' :: '!' :: (c :: cs ++ '>' :: rest) := by
    simp
  rw [htext]
  rw [List.cons_append] at hread ⊢
  simp [scanAngle, hmarks, bogus, hread]

end Asides

namespace Mark

def opening (name : String) (as : Attributes) (hname : IsName name) (h : ∀ a ∈ as, IsName a.1)
    (hraw : isRaw (Text.lower name) = false) : Mark where
  written := openingText name as
  token := .opening (Text.lower name) as.lowered
  scan := scanAngle_openingText hname h hraw
  no_text := nofun

@[simp] theorem token_opening (name : String) (as : Attributes) (hname : IsName name)
    (h : ∀ a ∈ as, IsName a.1) (hraw : isRaw (Text.lower name) = false) :
    (opening name as hname h hraw).token = .opening (Text.lower name) as.lowered := rfl

def closing (name : String) (hname : IsName name) : Mark where
  written := closingText name
  token := .closing (Text.lower name)
  scan := scanAngle_closingText hname
  no_text := nofun

@[simp] theorem token_closing (name : String) (hname : IsName name) :
    (closing name hname).token = .closing (Text.lower name) := rfl

theorem aside_ne_text (cs : List Char) : Token.aside ≠ .text cs := nofun

def comment (cs : List Char) (h : '-' ∉ cs) : Mark where
  written := '<' :: '!' :: '-' :: '-' :: (cs ++ ['-', '-', '>'])
  token := .aside
  scan := scanAngle_comment h
  no_text := aside_ne_text

def declaration (c : Char) (cs : List Char) (hc : isLetter c = true) (h : '>' ∉ c :: cs) :
    Mark where
  written := '<' :: '!' :: (c :: cs ++ ['>'])
  token := .aside
  scan := scanAngle_declaration hc h
  no_text := aside_ne_text

end Mark

end LinkShelf.Html

import LinkShelf.Proofs.Json.Scalar
/-!
The texts of a JSON value. Blanks may stand around each of its parts, and characters may be escaped
in any way. With them the steps in which lists and objects are read.
-/
namespace LinkShelf.Json

mutual

/-- Without doubles and without a name that comes twice. -/
def plain : Json → Bool
  | .float _ => false
  | .arr vs => plainItems vs
  | .obj ms => plainMembers ms
  | _ => true

def plainItems : List Json → Bool
  | [] => true
  | v :: vs => plain v && plainItems vs

def plainMembers : List (String × Json) → Bool
  | [] => true
  | (k, v) :: ms => !ms.any (·.1 == k) && plain v && plainMembers ms

end

def Blank (sp : List Char) : Prop := ∀ c ∈ sp, isSpace c = true

theorem blank_nil : Blank [] := by simp [Blank]

/-- What a piece of text stands for: a value, or the items or members of one and the bracket that
closes it. -/
inductive Part where
  | value (v : Json)
  | items (vs : List Json)
  | members (ms : Members)

/-- The texts of values other than doubles. -/
inductive Spells : Part → List Char → Prop where
  | null : Spells (.value .null) "null".toList
  | bool (b : Bool) : Spells (.value (.bool b)) (if b then "true" else "false").toList
  | int (n : Int) : Spells (.value (.int n)) (intText n).toList
  | str {s : String} {t : List Char} (h : SpellsChars s.toList t) :
      Spells (.value (.str s)) ('"' :: (t ++ ['"']))
  | emptyList {sp : List Char} (hsp : Blank sp) : Spells (.value (.arr [])) ('[' :: (sp ++ [']']))
  | list {vs : List Json} {sp t : List Char} (hsp : Blank sp) (h : Spells (.items vs) t) :
      Spells (.value (.arr vs)) ('[' :: (sp ++ t))
  | emptyObject {sp : List Char} (hsp : Blank sp) :
      Spells (.value (.obj [])) ('\x7b' :: (sp ++ ['\x7d']))
  | object {ms : Members} {sp t : List Char} (hsp : Blank sp) (h : Spells (.members ms) t) :
      Spells (.value (.obj ms)) ('\x7b' :: (sp ++ t))
  | lastItem {v : Json} {t sp : List Char} (h : Spells (.value v) t) (hsp : Blank sp) :
      Spells (.items [v]) (t ++ (sp ++ [']']))
  | item {v : Json} {vs : List Json} {t sp₁ sp₂ t' : List Char} (h : Spells (.value v) t)
      (h₁ : Blank sp₁) (h₂ : Blank sp₂) (h' : Spells (.items vs) t') :
      Spells (.items (v :: vs)) (t ++ (sp₁ ++ ',' :: (sp₂ ++ t')))
  | lastMember {k : String} {v : Json} {name sp₁ sp₂ t sp₃ : List Char}
      (hk : SpellsChars k.toList name) (h₁ : Blank sp₁) (h₂ : Blank sp₂)
      (h : Spells (.value v) t) (h₃ : Blank sp₃) :
      Spells (.members [(k, v)])
        ('"' :: (name ++ '"' :: (sp₁ ++ ':' :: (sp₂ ++ (t ++ (sp₃ ++ ['\x7d']))))))
  | member {k : String} {v : Json} {ms : Members} {name sp₁ sp₂ t sp₃ sp₄ t' : List Char}
      (hk : SpellsChars k.toList name) (h₁ : Blank sp₁) (h₂ : Blank sp₂)
      (h : Spells (.value v) t) (h₃ : Blank sp₃) (h₄ : Blank sp₄)
      (h' : Spells (.members ms) t') :
      Spells (.members ((k, v) :: ms))
        ('"' :: (name ++ '"' :: (sp₁ ++ ':' :: (sp₂ ++ (t ++ (sp₃ ++ ',' :: (sp₄ ++ t')))))))

theorem skip_blanks {sp : List Char} (h : Blank sp) {c : Char}
    (hc : isSpace c = false) (cs : List Char) : skip (sp ++ c :: cs) = c :: cs := by
  rw [skip, List.dropWhile_append_of_pos h]
  simp [hc]

/-- The start of a value: no blank, no end of a list or object, no byte order mark. -/
def Opens (cs : List Char) : Prop :=
  ∃ c tail, cs = c :: tail ∧ isSpace c = false ∧ c ≠ ']' ∧ c ≠ '\x7d' ∧ c ≠ '\uFEFF'

/-- No digit is a character with a meaning of its own. -/
theorem digit_ne {c d : Char} (hc : c.isDigit = true) (hd : d.isDigit = false) : c ≠ d := by
  rintro rfl
  simp [hc] at hd

theorem Opens.append {cs : List Char} (h : Opens cs) (rest : List Char) : Opens (cs ++ rest) := by
  obtain ⟨c, tail, rfl, hc⟩ := h
  exact ⟨c, tail ++ rest, rfl, hc⟩

theorem Opens.skip {cs sp : List Char} (h : Opens cs) (hsp : Blank sp) :
    skip (sp ++ cs) = cs := by
  obtain ⟨c, tail, rfl, hc, -⟩ := h
  exact skip_blanks hsp hc tail

theorem Opens.length_pos {cs : List Char} (h : Opens cs) : 1 ≤ cs.length := by
  obtain ⟨c, tail, rfl, -⟩ := h
  simp

/-- Distinct names are put one after the other. -/
theorem put_new {k : String} {v : Json} {ms : Members} (h : ms.any (·.1 == k) = false) :
    ms.put k v = ms ++ [(k, v)] := by
  induction ms with
  | nil => rfl
  | cons m ms ih =>
    obtain ⟨j, w⟩ := m
    rw [List.any_cons, Bool.or_eq_false_iff] at h
    have hne : ¬j = k := by simpa using h.1
    simp [Members.put, hne, ih h.2]

/-- What comes after an item does not belong to a number. -/
theorem quiet_blanks {sp cs : List Char} (h : Blank sp) (hc : Quiet cs) : Quiet (sp ++ cs) := by
  cases sp with
  | nil => exact hc
  | cons c sp =>
    have hspace := h c List.mem_cons_self
    have hne : ∀ d : Char, isSpace d = false → c ≠ d := by
      rintro d hd rfl
      simp [hspace] at hd
    refine quiet_cons (Bool.eq_false_iff.mpr fun hd => ?_) (hne _ rfl) (hne _ rfl) (hne _ rfl)
    simp [isSpace, digit_ne hd (d := ' ') rfl, digit_ne hd (d := '\t') rfl,
      digit_ne hd (d := '\n') rfl, digit_ne hd (d := '\r') rfl] at hspace

section Steps

variable {f : Nat} {cs rest rest' sp : List Char} {v : Json} {vs : List Json}

/-- Reading a list that has items. -/
theorem value_bracket (h : Opens cs) (hsp : Blank sp) :
    value (f + 1) ('[' :: (sp ++ cs)) = items f cs [] := by
  rw [value, h.skip hsp]
  obtain ⟨c, tail, rfl, -, hb, -⟩ := h
  split
  · rename_i h
    exact absurd (List.cons.inj h).1 hb
  · rfl

/-- Reading an object that has members. -/
theorem value_brace (h : Opens cs) (hsp : Blank sp) :
    value (f + 1) ('\x7b' :: (sp ++ cs)) = members f cs [] := by
  rw [value, h.skip hsp]
  obtain ⟨c, tail, rfl, -, -, hb, -⟩ := h
  split
  · rename_i h
    exact absurd (List.cons.inj h).1 hb
  · rfl

theorem items_last (hv : value f cs = .ok (v, rest)) (hr : skip rest = ']' :: rest') :
    items (f + 1) cs vs = .ok (.arr (v :: vs).reverse, rest') := by
  rw [items, hv]
  simp only [hr]

theorem items_next (hv : value f cs = .ok (v, rest)) (hr : skip rest = ',' :: rest') :
    items (f + 1) cs vs = items f (skip rest') (v :: vs) := by
  rw [items, hv]
  simp only [hr]

end Steps

theorem quiet_bracket (rest : List Char) : Quiet (']' :: rest) :=
  quiet_cons rfl (by decide) (by decide) (by decide)

theorem quiet_brace (rest : List Char) : Quiet ('\x7d' :: rest) :=
  quiet_cons rfl (by decide) (by decide) (by decide)

theorem quiet_comma (rest : List Char) : Quiet (',' :: rest) :=
  quiet_cons rfl (by decide) (by decide) (by decide)

/-- The names of the members after one are none of those up to it. -/
theorem new_after {k : String} {v : Json} {ms done : Members}
    (hk : ms.any (·.1 == k) = false)
    (hdone : ∀ m ∈ (k, v) :: ms, done.any (·.1 == m.1) = false) :
    ∀ m ∈ ms, (done ++ [(k, v)]).any (·.1 == m.1) = false := by
  intro m hm
  have hold := hdone m (List.mem_cons_of_mem _ hm)
  have hne := List.any_eq_false.mp hk m hm
  have hkey : (k == m.1) = false := by
    rw [beq_eq_false_iff_ne]
    rintro rfl
    simp at hne
  rw [List.any_append, hold, Bool.false_or, List.any_cons, hkey]
  rfl

/-- The bracket with which a piece of text ends. -/
def Part.close : Part → List Char
  | .value (.arr _) | .items _ => [']']
  | .value (.obj _) | .members _ => ['\x7d']
  | .value _ => []

/-- A text with nothing but a value and blanks around it. -/
inductive SpellsDocument (v : Json) : List Char → Prop where
  | intro {sp t sp' : List Char} (hsp : Blank sp) (h : Spells (.value v) t) (hsp' : Blank sp') :
      SpellsDocument v (sp ++ (t ++ sp'))

theorem skip_blank {sp : List Char} (h : Blank sp) : skip sp = [] := by
  have hdrop : skip (sp ++ []) = skip [] := List.dropWhile_append_of_pos h
  rwa [List.append_nil] at hdrop

end LinkShelf.Json

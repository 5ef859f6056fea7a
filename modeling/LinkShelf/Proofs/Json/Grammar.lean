import LinkShelf.Proofs.Json.Token
/-!
The grammar of JSON text. Reading accepts just the texts of the grammar, each as the one value that
it stands for.
-/
namespace LinkShelf.Json

variable {v : Json} {vs : List Json} {ms done : Members} {p : Part} {t cs r : List Char} {f : Nat}

/-- Sets members one after the other: of several with one name the last stays, in the place of the
first. -/
def collect (done ms : Members) : Members := ms.foldl (fun done m => done.put m.1 m.2) done

/-- What stands for a value, or for the items or members of one together with the bracket that
closes it. Blanks may stand around each of these. -/
inductive Denotes : Part → List Char → Prop where
  | bare {v : Json} {t : List Char} (h : Bare v t) : Denotes (.value v) t
  | str {s : String} {t : List Char} (h : Quotes s.toList t) :
      Denotes (.value (.str s)) ('"' :: (t ++ ['"']))
  | emptyList {sp : List Char} (hsp : Blank sp) : Denotes (.value (.arr [])) ('[' :: (sp ++ [']']))
  | list {vs : List Json} {sp t : List Char} (hsp : Blank sp) (h : Denotes (.items vs) t) :
      Denotes (.value (.arr vs)) ('[' :: (sp ++ t))
  | emptyObject {sp : List Char} (hsp : Blank sp) :
      Denotes (.value (.obj [])) ('\x7b' :: (sp ++ ['\x7d']))
  | object {ms : Members} {sp t : List Char} (hsp : Blank sp) (h : Denotes (.members ms) t) :
      Denotes (.value (.obj (collect [] ms))) ('\x7b' :: (sp ++ t))
  | lastItem {v : Json} {t sp : List Char} (h : Denotes (.value v) t) (hsp : Blank sp) :
      Denotes (.items [v]) (t ++ (sp ++ [']']))
  | item {v : Json} {vs : List Json} {t sp₁ sp₂ t' : List Char} (h : Denotes (.value v) t)
      (h₁ : Blank sp₁) (h₂ : Blank sp₂) (h' : Denotes (.items vs) t') :
      Denotes (.items (v :: vs)) (t ++ (sp₁ ++ ',' :: (sp₂ ++ t')))
  | lastMember {k : String} {v : Json} {name sp₁ sp₂ t sp₃ : List Char}
      (hk : Quotes k.toList name) (h₁ : Blank sp₁) (h₂ : Blank sp₂)
      (h : Denotes (.value v) t) (h₃ : Blank sp₃) :
      Denotes (.members [(k, v)])
        ('"' :: (name ++ '"' :: (sp₁ ++ ':' :: (sp₂ ++ (t ++ (sp₃ ++ ['\x7d']))))))
  | member {k : String} {v : Json} {ms : Members} {name sp₁ sp₂ t sp₃ sp₄ t' : List Char}
      (hk : Quotes k.toList name) (h₁ : Blank sp₁) (h₂ : Blank sp₂)
      (h : Denotes (.value v) t) (h₃ : Blank sp₃) (h₄ : Blank sp₄)
      (h' : Denotes (.members ms) t') :
      Denotes (.members ((k, v) :: ms))
        ('"' :: (name ++ '"' :: (sp₁ ++ ':' :: (sp₂ ++ (t ++ (sp₃ ++ ',' :: (sp₄ ++ t')))))))

section Soundness

theorem skip_spec (cs : List Char) : ∃ sp, cs = sp ++ skip cs ∧ Blank sp :=
  ⟨cs.takeWhile isSpace, (List.takeWhile_append_dropWhile ..).symm,
    List.all_eq_true.mp List.all_takeWhile⟩

theorem skip_cons {c : Char} {rest : List Char} (h : skip cs = c :: rest) :
    ∃ sp, cs = sp ++ c :: rest ∧ Blank sp := by
  rw [← h]
  exact skip_spec cs

theorem literal?_quotes {opened : List Char} {s : String} (h : literal? opened cs = .ok (s, r)) :
    ∃ t, cs = t ++ '"' :: r ∧ Quotes s.toList t := by
  unfold literal? at h
  split at h
  · rename_i s' rest hs
    cases h
    rw [String.toList_ofList]
    exact literalFrom_quotes hs
  · cases h

/-- That a value, items or members in front of a text were read there, so much fuel being left. -/
def Accepts (f : Nat) : Prop :=
  (∀ cs v r, value f cs = .ok (v, r) → ∃ t, cs = t ++ r ∧ Denotes (.value v) t) ∧
  (∀ cs done v r, items f cs done = .ok (v, r) →
    ∃ t vs, cs = t ++ r ∧ v = .arr (done.reverse ++ vs) ∧ Denotes (.items vs) t) ∧
  ∀ cs done v r, members f cs done = .ok (v, r) →
    ∃ t ms, cs = t ++ r ∧ v = .obj (collect done ms) ∧ Denotes (.members ms) t

theorem accepts_value (h : Accepts f) {cs : List Char} (hv : value (f + 1) cs = .ok (v, r)) :
    ∃ t, cs = t ++ r ∧ Denotes (.value v) t := by
  obtain ⟨-, hitems, hmembers⟩ := h
  rw [value.eq_def] at hv
  simp only at hv
  split at hv
  · split at hv
    · rename_i s rest hs
      cases hv
      obtain ⟨t, rfl, ht⟩ := literal?_quotes hs
      exact ⟨'"' :: (t ++ ['"']), by simp, .str ht⟩
    · cases hv
  · rename_i rest
    split at hv
    · rename_i rest' hskip
      cases hv
      obtain ⟨sp, rfl, hsp⟩ := skip_cons hskip
      exact ⟨'[' :: (sp ++ [']']), by simp, .emptyList hsp⟩
    · obtain ⟨sp, hrest, hsp⟩ := skip_spec rest
      obtain ⟨t, vs, hskip, rfl, ht⟩ := hitems _ _ _ _ hv
      refine ⟨'[' :: (sp ++ t), ?_, .list hsp ht⟩
      rw [hrest, hskip]
      simp
  · rename_i rest
    split at hv
    · rename_i rest' hskip
      cases hv
      obtain ⟨sp, rfl, hsp⟩ := skip_cons hskip
      exact ⟨'\x7b' :: (sp ++ ['\x7d']), by simp, .emptyObject hsp⟩
    · obtain ⟨sp, hrest, hsp⟩ := skip_spec rest
      obtain ⟨t, ms, hskip, rfl, ht⟩ := hmembers _ _ _ _ hv
      refine ⟨'\x7b' :: (sp ++ t), ?_, .object hsp ht⟩
      rw [hrest, hskip]
      simp
  · obtain ⟨t, rfl, ht⟩ := scalar_bare hv
    exact ⟨t, rfl, .bare ht⟩

theorem accepts_items (h : Accepts f) {cs : List Char} {done : List Json}
    (hv : items (f + 1) cs done = .ok (v, r)) :
    ∃ t vs, cs = t ++ r ∧ v = .arr (done.reverse ++ vs) ∧ Denotes (.items vs) t := by
  obtain ⟨hvalue, hitems, -⟩ := h
  rw [items] at hv
  split at hv
  · cases hv
  · rename_i w rest hw
    obtain ⟨t, rfl, ht⟩ := hvalue _ _ _ hw
    split at hv
    · rename_i rest' hskip
      cases hv
      obtain ⟨sp, rfl, hsp⟩ := skip_cons hskip
      exact ⟨t ++ (sp ++ [']']), [w], by simp, by simp, .lastItem ht hsp⟩
    · rename_i rest' hskip
      obtain ⟨sp, rfl, hsp⟩ := skip_cons hskip
      obtain ⟨sp', hrest', hsp'⟩ := skip_spec rest'
      obtain ⟨t', vs, hnext, rfl, ht'⟩ := hitems _ _ _ _ hv
      refine ⟨t ++ (sp ++ ',' :: (sp' ++ t')), w :: vs, ?_, by simp, .item ht hsp hsp' ht'⟩
      rw [hrest', hnext]
      simp
    · cases hv

theorem accepts_members (h : Accepts f) {cs : List Char}
    (hv : members (f + 1) cs done = .ok (v, r)) :
    ∃ t ms, cs = t ++ r ∧ v = .obj (collect done ms) ∧ Denotes (.members ms) t := by
  obtain ⟨hvalue, -, hmembers⟩ := h
  rw [members.eq_def] at hv
  simp only at hv
  split at hv
  · split at hv
    · cases hv
    · rename_i k rest hk
      obtain ⟨name, rfl, hname⟩ := literal?_quotes hk
      split at hv
      · rename_i rest₁ hskip₁
        obtain ⟨sp₁, rfl, h₁⟩ := skip_cons hskip₁
        obtain ⟨sp₂, hrest₁, h₂⟩ := skip_spec rest₁
        split at hv
        · cases hv
        · rename_i w rest₂ hw
          obtain ⟨t, hnext, ht⟩ := hvalue _ _ _ hw
          rw [hrest₁, hnext]
          split at hv
          · rename_i rest₃ hskip₃
            cases hv
            obtain ⟨sp₃, rfl, h₃⟩ := skip_cons hskip₃
            exact ⟨_, [(k, w)], by simp, rfl, .lastMember hname h₁ h₂ ht h₃⟩
          · rename_i rest₃ hskip₃
            obtain ⟨sp₃, rfl, h₃⟩ := skip_cons hskip₃
            obtain ⟨sp₄, hrest₃, h₄⟩ := skip_spec rest₃
            obtain ⟨t', ms, hnext', rfl, ht'⟩ := hmembers _ _ _ _ hv
            refine ⟨_, (k, w) :: ms, ?_, rfl, .member hname h₁ h₂ ht h₃ h₄ ht'⟩
            rw [hrest₃, hnext']
            simp
          · cases hv
      · cases hv
  · cases hv

/-- By induction on the fuel, of which each step takes one unit. -/
theorem accepts (f : Nat) : Accepts f := by
  induction f with
  | zero =>
    refine ⟨fun _ _ _ h => ?_, fun _ _ _ _ h => ?_, fun _ _ _ _ h => ?_⟩
    · rw [value] at h
      cases h
    · rw [items] at h
      cases h
    · rw [members] at h
      cases h
  | succ f ih =>
    exact ⟨fun _ _ _ => accepts_value ih, fun _ _ _ _ => accepts_items ih,
      fun _ _ _ _ => accepts_members ih⟩

end Soundness

section Completeness

theorem Quotes.literal? {s : String} (h : Quotes s.toList t) (opened rest : List Char) :
    literal? opened (t ++ '"' :: rest) = .ok (s, rest) := by
  rw [Json.literal?, h.read]
  simp

/-- Blanks, brackets, quotes and separators are none of the characters of a bare value. -/
theorem ordinary_ne {c d : Char} (hc : isOrdinary c = true) (hd : isOrdinary d = false) :
    c ≠ d := by
  rintro rfl
  simp [hc] at hd

theorem Bare.opens (h : Bare v t) : Opens t := by
  obtain ⟨c, tail, rfl⟩ := List.exists_cons_of_ne_nil h.filled
  have hc := h.ordinary c List.mem_cons_self
  refine ⟨c, tail, rfl, ?_, ordinary_ne hc rfl, ordinary_ne hc rfl, ordinary_ne hc rfl⟩
  rw [isOrdinary, Bool.and_eq_true, Bool.not_eq_true'] at hc
  exact hc.1

theorem Bare.value (h : Bare v t) (f : Nat) {rest : List Char} (hr : Quiet rest) :
    value (f + 1) (t ++ rest) = .ok (v, rest) := by
  obtain ⟨c, tail, rfl⟩ := List.exists_cons_of_ne_nil h.filled
  have hc := h.ordinary c List.mem_cons_self
  rw [← h.read rest hr, List.cons_append, Json.value.eq_def]
  simp only
  split
  · rename_i heq
    exact absurd (List.cons.inj heq).1 (ordinary_ne hc rfl)
  · rename_i heq
    exact absurd (List.cons.inj heq).1 (ordinary_ne hc rfl)
  · rename_i heq
    exact absurd (List.cons.inj heq).1 (ordinary_ne hc rfl)
  · rfl

theorem Denotes.opens (h : Denotes p t) : Opens t := by
  induction h with
  | bare h => exact h.opens
  | str | lastMember | member => exact ⟨'"', _, rfl, by decide⟩
  | emptyList | list => exact ⟨'[', _, rfl, by decide⟩
  | emptyObject | object => exact ⟨'\x7b', _, rfl, by decide⟩
  | lastItem _ _ ih | item _ _ _ _ ih => exact ih.append _

theorem Denotes.fuel (h : Denotes p t) (hf : t.length ≤ f) : ∃ g, f = g + 1 :=
  Nat.exists_eq_add_one.mpr (Nat.lt_of_lt_of_le h.opens.length_pos hf)

section Steps

variable {rest rest' name sp sp' : List Char} {k : String}

theorem members_lastQuoted (hk : Quotes k.toList name) (hsp : Blank sp) (hsp' : Blank sp')
    (ho : Opens cs) (hv : value f cs = .ok (v, rest)) (hr : skip rest = '\x7d' :: rest') :
    members (f + 1) ('"' :: (name ++ '"' :: (sp ++ ':' :: (sp' ++ cs)))) done =
      .ok (.obj (done.put k v), rest') := by
  rw [members]
  simp only [hk.literal?, skip_blanks hsp (c := ':') rfl, ho.skip hsp', hv, hr]

theorem members_nextQuoted (hk : Quotes k.toList name) (hsp : Blank sp) (hsp' : Blank sp')
    (ho : Opens cs) (hv : value f cs = .ok (v, rest)) (hr : skip rest = ',' :: rest') :
    members (f + 1) ('"' :: (name ++ '"' :: (sp ++ ':' :: (sp' ++ cs)))) done =
      members f (skip rest') (done.put k v) := by
  rw [members]
  simp only [hk.literal?, skip_blanks hsp (c := ':') rfl, ho.skip hsp', hv, hr]

end Steps

/-- That a text is read as what it stands for, whatever follows it. -/
def IsDecoded : Part → List Char → Prop
  | .value v, t => ∀ f rest, t.length ≤ f → Quiet rest → value f (t ++ rest) = .ok (v, rest)
  | .items vs, t => ∀ f rest done, t.length ≤ f →
      items f (t ++ rest) done = .ok (.arr (done.reverse ++ vs), rest)
  | .members ms, t => ∀ f rest done, t.length ≤ f →
      members f (t ++ rest) done = .ok (.obj (collect done ms), rest)

/-- By induction on the text; a step of reading is paid for by a character of it. -/
theorem Denotes.read (h : Denotes p t) : IsDecoded p t := by
  induction h with
  | bare h =>
    intro f rest hf hr
    obtain ⟨g, rfl⟩ := (Denotes.bare h).fuel hf
    exact h.value g hr
  | @str s t h =>
    intro f rest hf _
    obtain ⟨g, rfl⟩ := (Denotes.str h).fuel hf
    simp only [List.cons_append, List.append_assoc, List.nil_append]
    rw [value]
    simp only [h.literal?]
  | @emptyList sp hsp =>
    intro f rest hf _
    obtain ⟨g, rfl⟩ := (Denotes.emptyList hsp).fuel hf
    simp only [List.cons_append, List.append_assoc, List.nil_append]
    rw [value]
    simp only [skip_blanks hsp (c := ']') rfl]
  | @emptyObject sp hsp =>
    intro f rest hf _
    obtain ⟨g, rfl⟩ := (Denotes.emptyObject hsp).fuel hf
    simp only [List.cons_append, List.append_assoc, List.nil_append]
    rw [value]
    simp only [skip_blanks hsp (c := '\x7d') rfl]
  | @list vs sp t hsp h ih =>
    intro f rest hf _
    obtain ⟨g, rfl⟩ := (Denotes.list hsp h).fuel hf
    simp only [List.cons_append, List.append_assoc]
    simp only [List.length_cons, List.length_append] at hf
    rw [value_bracket (h.opens.append rest) hsp, ih g rest [] (by omega)]
    rfl
  | @object ms sp t hsp h ih =>
    intro f rest hf _
    obtain ⟨g, rfl⟩ := (Denotes.object hsp h).fuel hf
    simp only [List.cons_append, List.append_assoc]
    simp only [List.length_cons, List.length_append] at hf
    rw [value_brace (h.opens.append rest) hsp, ih g rest [] (by omega)]
  | @lastItem v t sp h hsp ih =>
    intro f rest done hf
    obtain ⟨g, rfl⟩ := (Denotes.lastItem h hsp).fuel hf
    simp only [List.length_append, List.length_singleton] at hf
    have hvalue := ih g (sp ++ ']' :: rest) (by omega) (quiet_blanks hsp (quiet_bracket rest))
    simp only [List.append_assoc, List.singleton_append]
    rw [items_last hvalue (skip_blanks hsp rfl rest)]
    simp
  | @item v vs t sp₁ sp₂ t' h h₁ h₂ h' ih ih' =>
    intro f rest done hf
    obtain ⟨g, rfl⟩ := (Denotes.item h h₁ h₂ h').fuel hf
    simp only [List.length_append, List.length_cons] at hf
    have hvalue := ih g (sp₁ ++ ',' :: (sp₂ ++ (t' ++ rest))) (by omega)
      (quiet_blanks h₁ (quiet_comma _))
    simp only [List.append_assoc, List.cons_append]
    rw [items_next hvalue (skip_blanks h₁ rfl _), (h'.opens.append rest).skip h₂,
      ih' g rest (v :: done) (by omega)]
    simp
  | @lastMember k v name sp₁ sp₂ t sp₃ hk h₁ h₂ h h₃ ih =>
    intro f rest done hf
    obtain ⟨g, rfl⟩ := (Denotes.lastMember hk h₁ h₂ h h₃).fuel hf
    simp only [List.length_append, List.length_cons] at hf
    have hvalue := ih g (sp₃ ++ '\x7d' :: rest) (by omega) (quiet_blanks h₃ (quiet_brace rest))
    simp only [List.append_assoc, List.cons_append, List.nil_append]
    rw [members_lastQuoted hk h₁ h₂ (h.opens.append _) hvalue (skip_blanks h₃ rfl rest)]
    rfl
  | @member k v ms name sp₁ sp₂ t sp₃ sp₄ t' hk h₁ h₂ h h₃ h₄ h' ih ih' =>
    intro f rest done hf
    obtain ⟨g, rfl⟩ := (Denotes.member hk h₁ h₂ h h₃ h₄ h').fuel hf
    simp only [List.length_append, List.length_cons] at hf
    have hvalue := ih g (sp₃ ++ ',' :: (sp₄ ++ (t' ++ rest))) (by omega)
      (quiet_blanks h₃ (quiet_comma _))
    simp only [List.append_assoc, List.cons_append]
    rw [members_nextQuoted hk h₁ h₂ (h.opens.append _) hvalue (skip_blanks h₃ rfl _),
      (h'.opens.append rest).skip h₄, ih' g rest _ (by omega)]
    rfl

end Completeness

section Documents

/-- A text with nothing but a value and blanks around it. -/
inductive DenotesDocument (v : Json) : List Char → Prop where
  | intro {sp t sp' : List Char} (hsp : Blank sp) (h : Denotes (.value v) t) (hsp' : Blank sp') :
      DenotesDocument v (sp ++ (t ++ sp'))

theorem blank_of_skip (h : skip cs = []) : Blank cs := by
  obtain ⟨sp, hcs, hsp⟩ := skip_spec cs
  rw [h, List.append_nil] at hcs
  rwa [hcs]

theorem parse_denotes {text : String} (h : parse text = .ok v) :
    DenotesDocument v text.toList := by
  have hdocument : document text.toList = .ok v := by
    unfold parse at h
    split at h
    · rename_i w hw
      cases h
      exact hw
    · cases h
  unfold document at hdocument
  split at hdocument
  · cases hdocument
  · split at hdocument
    · cases hdocument
    · rename_i w rest hw
      split at hdocument
      · rename_i hskip
        cases hdocument
        obtain ⟨sp, htext, hsp⟩ := skip_spec text.toList
        obtain ⟨t, hvalue, ht⟩ := (accepts _).1 _ _ _ hw
        rw [htext, hvalue]
        exact .intro hsp ht (blank_of_skip hskip)
      · cases hdocument

theorem DenotesDocument.parse (h : DenotesDocument v cs) : parse (.ofList cs) = .ok v := by
  obtain @⟨sp, t, sp', hsp, h, hsp'⟩ := h
  have hvalue := h.read (2 * (sp ++ (t ++ sp')).length + 2) sp' (by simp; omega)
    (by simpa using quiet_blanks hsp' quiet_nil)
  have hdocument : document (sp ++ (t ++ sp')) = .ok v := by
    rw [document.eq_def]
    split
    · rename_i hmark
      obtain ⟨c, tail, rfl, -, -, -, hc⟩ := h.opens
      cases sp with
      | nil => exact absurd (List.cons.inj hmark).1 hc
      | cons d sp =>
        have hd := hsp d List.mem_cons_self
        rw [(List.cons.inj hmark).1] at hd
        exact absurd hd (by decide)
    · rw [(h.opens.append sp').skip hsp, hvalue]
      simp only [skip_blank hsp']
  rw [Json.parse, String.toList_ofList, hdocument]

/-- A text is read as a value just if it is one of the texts of the value. -/
theorem parse_ok_iff {text : String} : parse text = .ok v ↔ DenotesDocument v text.toList := by
  refine ⟨parse_denotes, fun h => ?_⟩
  rw [← h.parse, String.ofList_toList]

end Documents

section Plain

def Part.plain : Part → Bool
  | .value v => Json.plain v
  | .items vs => plainItems vs
  | .members ms => plainMembers ms

theorem bare_int (n : Int) : Bare (.int n) (intText n).toList := by
  have hread := number?_intText n quiet_nil
  obtain ⟨negative, t, ht, hbare⟩ := number?_text hread
  rw [List.append_nil, List.append_nil] at ht
  rw [ht]
  exact hbare.bare

/-- Members with different names are collected as they are. -/
theorem collect_plain (hms : plainMembers ms = true)
    (hnew : ∀ m ∈ ms, done.any (·.1 == m.1) = false) : collect done ms = done ++ ms := by
  induction ms generalizing done with
  | nil => exact (List.append_nil done).symm
  | cons m ms ih =>
    obtain ⟨k, v⟩ := m
    rw [plainMembers, Bool.and_eq_true, Bool.and_eq_true, Bool.not_eq_true'] at hms
    show collect (done.put k v) ms = _
    rw [put_new (hnew (k, v) List.mem_cons_self), ih hms.2 (new_after hms.1.1 hnew),
      List.append_assoc, List.singleton_append]

/-- The texts of values without doubles and double names are texts of the grammar. -/
theorem Spells.denotes (h : Spells p t) (hp : p.plain = true) : Denotes p t := by
  induction h with
  | null => exact .bare (constants_bare ("null".toList, .null) (by simp [constants]))
  | bool b =>
    cases b with
    | true => exact .bare (constants_bare ("true".toList, .bool true) (by simp [constants]))
    | false => exact .bare (constants_bare ("false".toList, .bool false) (by simp [constants]))
  | int n => exact .bare (bare_int n)
  | str h => exact .str h.quotes
  | emptyList hsp => exact .emptyList hsp
  | list hsp _ ih => exact .list hsp (ih hp)
  | emptyObject hsp => exact .emptyObject hsp
  | @object ms sp t hsp _ ih =>
    have hobject := Denotes.object hsp (ih hp)
    rwa [collect_plain hp (by simp), List.nil_append] at hobject
  | lastItem _ hsp ih =>
    simp only [Part.plain, plainItems, Bool.and_true] at hp
    exact .lastItem (ih hp) hsp
  | item _ h₁ h₂ _ ih ih' =>
    simp only [Part.plain, plainItems, Bool.and_eq_true] at hp
    exact .item (ih hp.1) h₁ h₂ (ih' hp.2)
  | lastMember hk h₁ h₂ _ h₃ ih =>
    simp only [Part.plain, plainMembers, Bool.and_eq_true] at hp
    exact .lastMember hk.quotes h₁ h₂ (ih hp.1.2) h₃
  | member hk h₁ h₂ _ h₃ h₄ _ ih ih' =>
    simp only [Part.plain, plainMembers, Bool.and_eq_true] at hp
    exact .member hk.quotes h₁ h₂ (ih hp.1.2) h₃ h₄ (ih' hp.2)

/-- Every text of such a value is read as the value. -/
theorem SpellsDocument.parse (h : SpellsDocument v cs) (hv : plain v = true) :
    parse (.ofList cs) = .ok v := by
  obtain ⟨hsp, h, hsp'⟩ := h
  exact (DenotesDocument.intro hsp (h.denotes hv) hsp').parse

end Plain

section Shape

/-- Neither a list nor an object. -/
def Flat (v : Json) : Prop := (∀ vs, v ≠ .arr vs) ∧ ∀ ms, v ≠ .obj ms

theorem Flat.close (h : Flat v) : (Part.value v).close = [] := by
  cases v with
  | arr vs => exact (h.1 vs rfl).elim
  | obj ms => exact (h.2 ms rfl).elim
  | _ => rfl

theorem unsigned?_flat {negative : Bool} (h : unsigned? negative cs = some (v, r)) : Flat v := by
  unfold unsigned? at h
  grind [Flat]

theorem constant?_flat (h : constant? cs = some (v, r)) : Flat v := by
  have hall : ∀ m ∈ constants, Flat m.2 := by
    intro m hm
    simp only [constants, List.mem_cons, List.not_mem_nil, or_false] at hm
    rcases hm with rfl | rfl | rfl | rfl | rfl | rfl <;> simp [Flat]
  obtain ⟨⟨name, w⟩, hm, hfound⟩ := List.exists_of_findSome?_eq_some h
  by_cases hstart : name.isPrefixOf cs = true
  · simp only [hstart, if_true, Option.some.injEq, Prod.mk.injEq] at hfound
    exact hfound.1 ▸ hall _ hm
  · simp [hstart] at hfound

theorem Bare.flat (h : Bare v t) : Flat v := by
  have hread : scalar (t ++ []) = .ok (v, []) := h.read [] quiet_nil
  unfold scalar at hread
  split at hread
  · rename_i found hfound
    cases hread
    exact constant?_flat hfound
  · split at hread
    · rename_i found hfound
      cases hread
      unfold number? at hfound
      split at hfound
      · exact unsigned?_flat hfound
      · exact unsigned?_flat hfound
    · cases hread

theorem Denotes.close (h : Denotes p t) : ∃ m, t = m ++ p.close := by
  induction h with
  | bare h => exact ⟨_, by rw [h.flat.close, List.append_nil]⟩
  | str => exact ⟨_, (List.append_nil _).symm⟩
  | @emptyList sp => exact ⟨'[' :: sp, rfl⟩
  | @emptyObject sp => exact ⟨'\x7b' :: sp, rfl⟩
  | @list vs sp t _ _ ih =>
    obtain ⟨m, rfl⟩ := ih
    exact ⟨'[' :: (sp ++ m), by simp [Part.close]⟩
  | @object ms sp t _ _ ih =>
    obtain ⟨m, rfl⟩ := ih
    exact ⟨'\x7b' :: (sp ++ m), by simp [Part.close]⟩
  | @lastItem v t sp => exact ⟨t ++ sp, by simp [Part.close]⟩
  | @item v vs t sp₁ sp₂ t' _ _ _ _ _ ih =>
    obtain ⟨m, rfl⟩ := ih
    exact ⟨t ++ (sp₁ ++ ',' :: (sp₂ ++ m)), by simp [Part.close]⟩
  | @lastMember k v name sp₁ sp₂ t sp₃ =>
    exact ⟨'"' :: (name ++ '"' :: (sp₁ ++ ':' :: (sp₂ ++ (t ++ sp₃)))), by simp [Part.close]⟩
  | @member k v ms name sp₁ sp₂ t sp₃ sp₄ t' _ _ _ _ _ _ _ _ ih =>
    obtain ⟨m, rfl⟩ := ih
    exact ⟨'"' :: (name ++ '"' :: (sp₁ ++ ':' :: (sp₂ ++ (t ++ (sp₃ ++ ',' :: (sp₄ ++ m)))))),
      by simp [Part.close]⟩

/-- The text of a list or an object has its brackets at its ends. -/
theorem Denotes.brackets (h : Denotes (.value v) t) (hv : ¬Flat v) :
    ∃ c m d, t = c :: (m ++ [d]) ∧ (c = '[' ∧ d = ']' ∨ c = '\x7b' ∧ d = '\x7d') := by
  cases h with
  | bare h => exact (hv h.flat).elim
  | str => simp [Flat] at hv
  | @emptyList sp => exact ⟨'[', sp, ']', rfl, .inl ⟨rfl, rfl⟩⟩
  | @emptyObject sp => exact ⟨'\x7b', sp, '\x7d', rfl, .inr ⟨rfl, rfl⟩⟩
  | @list vs sp t _ h =>
    obtain ⟨m, rfl⟩ := h.close
    exact ⟨'[', sp ++ m, ']', by simp [Part.close], .inl ⟨rfl, rfl⟩⟩
  | @object ms sp t _ h =>
    obtain ⟨m, rfl⟩ := h.close
    exact ⟨'\x7b', sp ++ m, '\x7d', by simp [Part.close], .inr ⟨rfl, rfl⟩⟩

/-- A text without quotes is that of no object with a member. -/
theorem Denotes.get?_unquoted (h : Denotes (.value v) t) (hq : '"' ∉ t) (name : String) :
    v.get? name = none := by
  cases h with
  | bare h =>
    cases v with
    | obj ms => exact (h.flat.2 ms rfl).elim
    | _ => rfl
  | str | emptyList | list | emptyObject => rfl
  | object _ h =>
    cases h with
    | lastMember | member => simp at hq

/-- The first quote or backslash of a text. -/
def firstMark (t : List Char) : Option Char := t.find? fun c => c = '"' || c = '\\'

theorem firstMark_append (t t' : List Char) :
    firstMark (t ++ t') = (firstMark t).or (firstMark t') :=
  List.find?_append ..

theorem firstMark_cons {c : Char} (hq : c ≠ '"') (hb : c ≠ '\\') (t : List Char) :
    firstMark (c :: t) = firstMark t := by
  simp [firstMark, hq, hb]

theorem Blank.firstMark {sp : List Char} (h : Blank sp) : firstMark sp = none := by
  refine List.find?_eq_none.mpr fun c hc => ?_
  have hspace := h c hc
  rw [Bool.not_eq_true, Bool.or_eq_false_iff, decide_eq_false_iff_not, decide_eq_false_iff_not]
  constructor
  · rintro rfl
    cases hspace
  · rintro rfl
    cases hspace

theorem Bare.firstMark (h : Bare v t) : firstMark t = none := by
  refine List.find?_eq_none.mpr fun c hc => ?_
  have hordinary := h.ordinary c hc
  simp [ordinary_ne (d := '"') hordinary rfl, ordinary_ne (d := '\\') hordinary rfl]

/-- In a text that stands for something a quote comes before any backslash. -/
theorem Denotes.firstMark (h : Denotes p t) : firstMark t ≠ some '\\' := by
  have hquote : ∀ t, Json.firstMark ('"' :: t) ≠ some '\\' := fun t => by simp [Json.firstMark]
  have hor : ∀ {x y : Option Char}, x ≠ some '\\' → y ≠ some '\\' → x.or y ≠ some '\\' := by
    intro x y hx hy
    cases x with
    | none => exact hy
    | some c => exact hx
  induction h with
  | bare h => simp [h.firstMark]
  | str | lastMember | member => exact hquote _
  | emptyList hsp | emptyObject hsp =>
    rw [firstMark_cons (by decide) (by decide), firstMark_append, hsp.firstMark]
    decide
  | list hsp _ ih | object hsp _ ih =>
    rw [firstMark_cons (by decide) (by decide), firstMark_append, hsp.firstMark]
    exact ih
  | lastItem _ hsp ih =>
    rw [firstMark_append, firstMark_append, hsp.firstMark]
    exact hor ih (by decide)
  | item _ h₁ h₂ _ ih ih' =>
    rw [firstMark_append, firstMark_append, h₁.firstMark, firstMark_cons (by decide) (by decide),
      firstMark_append, h₂.firstMark]
    exact hor ih ih'

theorem DenotesDocument.firstMark (h : DenotesDocument v cs) : firstMark cs ≠ some '\\' := by
  obtain ⟨hsp, h, hsp'⟩ := h
  rw [firstMark_append, firstMark_append, hsp.firstMark, hsp'.firstMark, Option.none_or,
    Option.or_none]
  exact h.firstMark

theorem DenotesDocument.get?_unquoted (h : DenotesDocument v cs) (hq : '"' ∉ cs) (name : String) :
    v.get? name = none := by
  obtain ⟨-, h, -⟩ := h
  refine h.get?_unquoted (fun hin => hq ?_) name
  exact List.mem_append_right _ (List.mem_append_left _ hin)

theorem firstMark_eq_none (h : Json.firstMark cs = none) : '"' ∉ cs :=
  fun hin => by simpa using List.find?_eq_none.mp h _ hin

end Shape

end LinkShelf.Json

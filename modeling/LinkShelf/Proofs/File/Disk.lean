import LinkShelf.File.Disk
/-!
What an operation leaves alone on a disk. While folders stay, every path leads where it led
before; so what is written under one path is found there, and what is beside it is not touched.
-/
namespace LinkShelf.Disk

variable {d d' d'' : Disk} {l k : Location} {e : Entry} {p q : Path}

def text? (d : Disk) (l : Location) : Option String :=
  match d.at? l with
  | some (.file text) => some text
  | _ => none

theorem lookup_replaced (es : List (Location × Entry)) :
    (es.map fun (k, old) => if k = l then (k, e) else (k, old)).lookup k =
      if k = l then (es.lookup k).map fun _ => e else es.lookup k := by
  induction es with
  | nil => simp
  | cons x es ih =>
    obtain ⟨j, old⟩ := x
    rw [List.map_cons, List.lookup_cons, List.lookup_cons, ih]
    by_cases hj : k = j
    · subst hj
      by_cases hk : k = l <;> simp [hk]
    · have hb : (k == j) = false := by simpa using hj
      by_cases hl : j = l
      · subst hl
        simp [hb]
      · simp [hl, hb]

theorem lookup_filter_ne (es : List (Location × Entry)) (h : k ≠ l) :
    (es.filter fun (j, _) => decide (j ≠ l)).lookup k = es.lookup k := by
  induction es with
  | nil => rfl
  | cons x es ih =>
    obtain ⟨j, old⟩ := x
    by_cases hj : j = l
    · have hb : (k == j) = false := by simpa [hj] using h
      rw [List.filter_cons_of_neg (by simpa using hj), List.lookup_cons, hb, ih]
    · rw [List.filter_cons_of_pos (by simpa using hj), List.lookup_cons, List.lookup_cons, ih]

theorem lookup_filter_self (es : List (Location × Entry)) :
    (es.filter fun (j, _) => decide (j ≠ l)).lookup l = none := by
  rw [List.lookup_eq_none_iff]
  intro x hx
  have hne : x.1 ≠ l := by simpa using (List.mem_filter.mp hx).2
  simpa using hne.symm

@[simp] theorem here_put : (d.put l e).here = d.here := rfl

@[simp] theorem here_erase : (d.erase l).here = d.here := rfl

theorem at?_put_ne (h : k ≠ l) : (d.put l e).at? k = d.at? k := by
  unfold at? put
  by_cases hl : (d.entries.lookup l).isSome
  · simp only [hl, ↓reduceIte, lookup_replaced, h]
  · have hk : (k == l) = false := by simpa using h
    simp [hl, List.lookup_append, List.lookup_cons, hk]

/-- Whatever is put at a location that is not above the working folder is there. -/
theorem at?_put_self (h : l.isPrefixOf d.here = false) : (d.put l e).at? l = some e := by
  unfold at? put
  cases hl : d.entries.lookup l with
  | none => simp [h, hl, List.lookup_append]
  | some old => simp [h, hl, lookup_replaced]

theorem at?_erase_ne (h : k ≠ l) : (d.erase l).at? k = d.at? k := by
  unfold at? erase
  simp only [lookup_filter_ne d.entries h]

theorem at?_erase_self (h : l.isPrefixOf d.here = false) : (d.erase l).at? l = none := by
  unfold at? erase
  simp only [h, Bool.false_eq_true, ↓reduceIte, lookup_filter_self]

theorem not_above (h : d.at? l ≠ some .folder) : l.isPrefixOf d.here = false := by
  unfold at? at h
  cases hl : l.isPrefixOf d.here with
  | false => rfl
  | true => simp [hl] at h

/-- The folders of one disk are folders of the other. -/
structure Extends (d d' : Disk) : Prop where
  here : d'.here = d.here
  folders : ∀ l, d.at? l = some .folder → d'.at? l = some .folder

theorem Extends.refl (d : Disk) : Extends d d := ⟨rfl, fun _ h => h⟩

theorem Extends.trans (h : Extends d d') (h' : Extends d' d'') : Extends d d'' :=
  ⟨h'.here.trans h.here, fun l hl => h'.folders l (h.folders l hl)⟩

theorem extends_put (h : d.at? l ≠ some .folder) : Extends d (d.put l e) := by
  refine ⟨rfl, fun k hk => ?_⟩
  have hne : k ≠ l := by
    rintro rfl
    exact h hk
  rw [at?_put_ne hne, hk]

theorem extends_erase (h : d.at? l ≠ some .folder) : Extends d (d.erase l) := by
  refine ⟨rfl, fun k hk => ?_⟩
  have hne : k ≠ l := by
    rintro rfl
    exact h hk
  rw [at?_erase_ne hne, hk]

/-- One step of a walk goes through a folder. -/
theorem walk_cons_ok {name : String} {names : List String} (h : d.walk l (name :: names) = .ok k) :
    d.at? l = some .folder ∧
      (name = ".." ∧ d.walk l.dropLast names = .ok k ∨
        name ≠ ".." ∧ ¬maxName < name.utf8ByteSize ∧ d.walk (l ++ [name]) names = .ok k) := by
  rw [walk] at h
  split at h
  · cases h
  · cases h
  · rename_i hl
    refine ⟨hl, ?_⟩
    by_cases hn : name = ".."
    · simp only [hn, ↓reduceIte] at h
      exact .inl ⟨hn, h⟩
    · by_cases hm : maxName < name.utf8ByteSize
      · simp [hn, hm] at h
      · simp only [hn, hm, ↓reduceIte] at h
        exact .inr ⟨hn, hm, h⟩

theorem Extends.walk (h : Extends d d') {names : List String} (hw : d.walk l names = .ok k) :
    d'.walk l names = .ok k := by
  induction names generalizing l with
  | nil => exact hw
  | cons name names ih =>
    obtain ⟨hl, ⟨hn, hw⟩ | ⟨hn, hm, hw⟩⟩ := walk_cons_ok hw
    · simp [Disk.walk, h.folders l hl, hn, ih hw]
    · simp [Disk.walk, h.folders l hl, hn, hm, ih hw]

theorem locate_ok (h : d.locate p = .ok l) :
    p.text.toList.contains '\x00' = false ∧ ¬maxPath < p.text.utf8ByteSize ∧
      d.walk (if p.isAbsolute then [] else d.here) p.parts = .ok l := by
  unfold locate at h
  cases hz : p.text.toList.contains '\x00' with
  | true => simp only [hz, ↓reduceIte, reduceCtorEq] at h
  | false =>
    by_cases hm : maxPath < p.text.utf8ByteSize
    · simp only [hz, hm, Bool.false_eq_true, ↓reduceIte, reduceCtorEq] at h
    · simp only [hz, hm, Bool.false_eq_true, ↓reduceIte] at h
      exact ⟨rfl, hm, h⟩

/-- A path leads where it led. -/
theorem Extends.locate (h : Extends d d') (hl : d.locate p = .ok l) : d'.locate p = .ok l := by
  obtain ⟨hz, hm, hw⟩ := locate_ok hl
  unfold Disk.locate
  rw [if_neg (by simp only [hz, Bool.false_eq_true, not_false_eq_true]), if_neg hm, h.here]
  exact h.walk hw

theorem walk_append {names more : List String} (h : d.walk l (names ++ more) = .ok k) :
    ∃ j, d.walk l names = .ok j ∧ d.walk j more = .ok k := by
  induction names generalizing l with
  | nil => exact ⟨l, rfl, h⟩
  | cons name names ih =>
    rw [List.cons_append] at h
    obtain ⟨hl, ⟨hn, hw⟩ | ⟨hn, hm, hw⟩⟩ := walk_cons_ok h
    · obtain ⟨j, hj, hk⟩ := ih hw
      exact ⟨j, by simp [Disk.walk, hl, hn, hj], hk⟩
    · obtain ⟨j, hj, hk⟩ := ih hw
      exact ⟨j, by simp [Disk.walk, hl, hn, hm, hj], hk⟩

theorem walk_single {name : String} (h : d.walk l [name] = .ok k) :
    k = if name = ".." then l.dropLast else l ++ [name] := by
  obtain ⟨-, ⟨hn, hw⟩ | ⟨hn, -, hw⟩⟩ := walk_cons_ok h <;>
    simp only [Disk.walk, Except.ok.injEq] at hw <;> simp [hn, hw]

theorem longer_name (name : String) : (name ++ ".tmp").length = name.length + 4 := by
  rw [String.length_append]
  rfl

/-- The draft of a file is not the file. -/
theorem draft_ne (hl : d.locate p = .ok l) (hk : d.locate (p.extend ".tmp") = .ok k) : l ≠ k := by
  obtain ⟨-, -, hl⟩ := locate_ok hl
  obtain ⟨-, -, hk⟩ := locate_ok hk
  obtain ⟨j, hj, hk⟩ := walk_append hk
  have hup : p.name ++ ".tmp" ≠ ".." := by
    intro h
    have := congrArg String.length h
    rw [longer_name] at this
    have h2 : "..".length = 2 := rfl
    omega
  have hk := walk_single hk
  rw [if_neg hup] at hk
  have hroot : (p.extend ".tmp").isAbsolute = p.isAbsolute := rfl
  rw [hroot] at hj
  rcases List.eq_nil_or_concat p.parts with hp | ⟨names, name, hp⟩
  · have hstart : l = j := by
      rw [hp, Disk.walk, Except.ok.injEq] at hl
      rw [hp, List.dropLast_nil, Disk.walk, Except.ok.injEq] at hj
      rw [← hl, ← hj]
    intro h
    have := congrArg List.length (hk.symm.trans (h.symm.trans hstart))
    simp at this
  · rw [List.concat_eq_append] at hp
    have hname : p.name = name := by simp [Path.name, hp]
    rw [hp, List.dropLast_concat] at hj
    rw [hp] at hl
    obtain ⟨i, hi, hl⟩ := walk_append hl
    rw [hj, Except.ok.injEq] at hi
    have hl := walk_single hl
    subst hi
    intro h
    rw [hk, hl, hname] at h
    by_cases hn : name = ".."
    · have := congrArg List.length h
      simp [hn] at this
    · rw [if_neg hn, List.append_cancel_left_eq, List.cons.injEq] at h
      have := congrArg String.length h.1
      rw [longer_name] at this
      omega

theorem unifyLines_eq {cs : List Char} (h : '\r' ∉ cs) : unifyLines cs = cs := by
  induction cs with
  | nil => rfl
  | cons c cs ih =>
    rw [List.mem_cons, not_or] at h
    rw [unifyLines, ih h.2]
    · intro _ hc _
      exact h.1 hc.symm
    · exact fun hc => h.1 hc.symm

end LinkShelf.Disk

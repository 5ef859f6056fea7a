import LinkShelf.Proofs.File.Disk
/-!
Writing by way of a draft. Making folders and writing the draft leave the text of every other file
alone; moving the draft then puts the whole text under the path at once.
-/
namespace LinkShelf.Disk

variable {d d' d'' : Disk} {l k : Location} {p q : Path} {text : String}

/-- Folders stay, and no file but that of a path became another. -/
structure Beside (p : Path) (d d' : Disk) : Prop where
  grows : Extends d d'
  texts : ∀ l, d'.locate p ≠ .ok l → d'.text? l = d.text? l

theorem Beside.refl (p : Path) (d : Disk) : Beside p d d := ⟨.refl d, fun _ _ => rfl⟩

theorem Beside.trans (h : Beside p d d') (h' : Beside p d' d'') : Beside p d d'' := by
  refine ⟨h.grows.trans h'.grows, fun l hl => ?_⟩
  have hl' : d'.locate p ≠ .ok l := fun hp => hl (h'.grows.locate hp)
  rw [h'.texts l hl, h.texts l hl']

theorem beside_put_folder (h : d.at? l = none) : Beside p d (d.put l .folder) := by
  have hl : d.at? l ≠ some .folder := by simp [h]
  refine ⟨extends_put hl, fun k _ => ?_⟩
  by_cases hk : k = l
  · subst hk
    simp [text?, h, at?_put_self (not_above hl)]
  · simp [text?, at?_put_ne hk]

theorem makeFolder_beside (h : d.makeFolder q = .ok d') : Beside p d d' := by
  unfold makeFolder at h
  cases hl : d.locate q with
  | error r => simp [hl, bind, Except.bind] at h
  | ok l =>
    simp only [hl, bind, Except.bind] at h
    cases he : d.at? l with
    | some e => simp [he] at h
    | none =>
      simp only [he, pure, Except.pure, Except.ok.injEq] at h
      subst h
      exact beside_put_folder he

theorem makeFolderAt_beside (h : d.makeFolderAt q = .ok d') : Beside p d d' := by
  unfold makeFolderAt at h
  split at h
  · rename_i hm
    cases h
    exact makeFolder_beside hm
  · split at h
    · cases h
      exact .refl p d
    · cases h

theorem makeFolders_go_beside {n : Nat} (h : makeFolders.go d n q = .ok d') : Beside p d d' := by
  induction n generalizing q d' with
  | zero => exact makeFolderAt_beside h
  | succ n ih =>
    unfold makeFolders.go at h
    split at h
    · cases hg : makeFolders.go d n q.parent with
      | error f => simp [hg, bind, Except.bind] at h
      | ok d₁ =>
        simp only [hg, bind, Except.bind] at h
        exact (ih hg).trans (makeFolderAt_beside h)
    · exact makeFolderAt_beside h

/-- No file changes when folders are made. -/
theorem makeFolders_beside (h : d.makeFolders q = .ok d') : Beside p d d' :=
  makeFolders_go_beside h

theorem writeText_ok (h : d.writeText p text = .ok d') :
    ∃ l, d.locate p = .ok l ∧ d.at? l ≠ some .folder ∧ d' = d.put l (.file text) := by
  unfold writeText at h
  cases hl : d.locate p with
  | error r => simp [hl] at h
  | ok l =>
    simp only [hl] at h
    split at h
    · cases h
    · rename_i hf
      cases h
      exact ⟨l, rfl, hf, rfl⟩

theorem writeText_beside (h : d.writeText p text = .ok d') : Beside p d d' := by
  obtain ⟨l, hl, hf, rfl⟩ := writeText_ok h
  refine ⟨extends_put hf, fun k hk => ?_⟩
  have hne : k ≠ l := by
    rintro rfl
    exact hk ((extends_put hf).locate hl)
  simp [text?, at?_put_ne hne]

theorem find_ok {e : Entry} : d.find p = .ok e ↔ ∃ l, d.locate p = .ok l ∧ d.at? l = some e := by
  unfold find
  cases hl : d.locate p with
  | error r => simp [bind, Except.bind]
  | ok l => cases he : d.at? l <;> simp [bind, Except.bind, he, pure, Except.pure]

/-- What was written is there. -/
theorem find_of_writeText (h : d.writeText p text = .ok d') : d'.find p = .ok (.file text) := by
  obtain ⟨l, hl, hf, rfl⟩ := writeText_ok h
  exact find_ok.mpr ⟨l, (extends_put hf).locate hl, at?_put_self (not_above hf)⟩

theorem moveFile_ok (h : d.moveFile p q = .ok d') :
    ∃ l k text, d.locate p = .ok l ∧ d.locate q = .ok k ∧ d.at? l = some (.file text) ∧
      d.at? k ≠ some .folder ∧ d' = (d.erase l).put k (.file text) := by
  unfold moveFile at h
  cases hl : d.locate p with
  | error r => simp [hl] at h
  | ok l =>
    cases hk : d.locate q with
    | error r => simp [hl, hk] at h
    | ok k =>
      simp only [hl, hk] at h
      split at h
      · cases h
      · cases h
      · cases h
      · rename_i text he hf
        cases h
        exact ⟨l, k, text, rfl, rfl, he, hf, rfl⟩

/-- A file that was moved is found, whole, under the path it was moved to. -/
theorem find_of_moveFile (h : d.moveFile p q = .ok d') (hp : d.find p = .ok (.file text)) :
    d'.find q = .ok (.file text) := by
  obtain ⟨l, k, moved, hl, hk, he, hf, rfl⟩ := moveFile_ok h
  obtain ⟨m, hm, ht⟩ := find_ok.mp hp
  rw [hl, Except.ok.injEq] at hm
  subst hm
  rw [he, Option.some.injEq, Entry.file.injEq] at ht
  subst ht
  have hgone : (d.erase l).at? k ≠ some .folder := by
    by_cases hkl : k = l
    · subst hkl
      simp [at?_erase_self (not_above hf)]
    · rw [at?_erase_ne hkl]
      exact hf
  have hgrows : Extends d ((d.erase l).put k (.file moved)) :=
    (extends_erase (by simp [he])).trans (extends_put hgone)
  exact find_ok.mpr ⟨k, hgrows.locate hk, at?_put_self (not_above hgone)⟩

/-- The path leads where it led, if it led anywhere, and the text there is what it was. -/
structure Spares (p : Path) (d d' : Disk) : Prop where
  located : ∀ l, d.locate p = .ok l → d'.locate p = .ok l
  text : ∀ l, d'.locate p = .ok l → d'.text? l = d.text? l

/-- What is done to the draft of a file spares the file. -/
theorem Beside.spares (h : Beside (p.extend ".tmp") d d') : Spares p d d' := by
  refine ⟨fun l hl => h.grows.locate hl, fun l hl => h.texts l ?_⟩
  intro hk
  exact draft_ne hl hk rfl

theorem text?_eq_some : d.text? l = some text ↔ d.at? l = some (.file text) := by
  unfold text?
  split <;> simp_all

theorem Spares.find (h : Spares p d d') (hf : d.find p = .ok (.file text)) :
    d'.find p = .ok (.file text) := by
  obtain ⟨l, hl, he⟩ := find_ok.mp hf
  have hl' := h.located l hl
  refine find_ok.mpr ⟨l, hl', ?_⟩
  rw [← text?_eq_some, h.text l hl', text?_eq_some, he]

end LinkShelf.Disk

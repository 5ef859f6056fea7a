import LinkShelf.Proofs.File.Draft
import LinkShelf.Proofs.Store.Collection
/-!
Where a commit ends. One that succeeds has saved the new collection and told all listeners; one
that fails, in whichever part, has left behind nothing but a draft.
-/
namespace LinkShelf.Shelf

open LinkShelf.Act

/-- What no operation changes; ids may have been drawn. -/
structure Setup (s t : Shelf) : Prop where
  name : t.name = s.name
  medium : t.medium = s.medium
  reorders : t.reorders = s.reorders
  listeners : t.listeners = s.listeners
  supply : t.supply = s.supply
  drawn : s.drawn ≤ t.drawn

theorem Setup.refl (s : Shelf) : Setup s s := ⟨rfl, rfl, rfl, rfl, rfl, Nat.le_refl _⟩

theorem Setup.trans {s t u : Shelf} (h : Setup s t) (h' : Setup t u) : Setup s u :=
  ⟨h'.name.trans h.name, h'.medium.trans h.medium, h'.reorders.trans h.reorders,
    h'.listeners.trans h.listeners, h'.supply.trans h.supply, Nat.le_trans h.drawn h'.drawn⟩

def inMemory : Medium → Bool
  | .memory => true
  | .file _ _ => false

theorem inMemory_iff {m : Medium} : inMemory m = true ↔ m = .memory := by
  cases m <;> simp [inMemory]

/-- On the disk, nothing but the draft of the store file became another file. -/
def Drafted (s t : Shelf) : Prop :=
  match s.medium with
  | .memory => True
  | .file path _ => Disk.Beside (path.extend ".tmp") s.disk t.disk

/-- Nothing that can be seen of a shelf has changed. -/
structure Kept (s t : Shelf) : Prop extends Setup s t where
  items : t.items = s.items
  notices : t.notices = s.notices
  disk : Drafted s t

theorem Drafted.refl (s : Shelf) : Drafted s s := by
  unfold Drafted
  split
  · trivial
  · exact .refl _ _

theorem Drafted.trans {s t u : Shelf} (hm : t.medium = s.medium) (h : Drafted s t)
    (h' : Drafted t u) : Drafted s u := by
  unfold Drafted at h h' ⊢
  rw [hm] at h'
  cases hs : s.medium with
  | memory => trivial
  | file path indent =>
    rw [hs] at h h'
    exact Disk.Beside.trans h h'

theorem Kept.refl (s : Shelf) : Kept s s := ⟨.refl s, rfl, rfl, .refl s⟩

theorem Kept.trans {s t u : Shelf} (h : Kept s t) (h' : Kept t u) : Kept s u :=
  ⟨h.toSetup.trans h'.toSetup, h'.items.trans h.items, h'.notices.trans h.notices,
    h.disk.trans h.medium h'.disk⟩

/-- The store file holds the JSON array of the collection. -/
def Stored (s : Shelf) : Prop :=
  match s.medium with
  | .memory => True
  | .file path indent => s.disk.find path = .ok (.file (Exchange.toJsonText indent s.items))

/-- A list has become the collection: it is saved, and all listeners have been told. -/
structure Committed (bs : List Bookmark) (s t : Shelf) : Prop extends Setup s t where
  items : t.items = numbered bs
  notices : t.notices = s.notices ++ s.listeners.map fun l => ⟨l, numbered bs⟩
  stored : Stored t

section Ends

variable {α : Type} {s : Shelf} {act : Act α} {ok : α → Shelf → Prop} {bad : Fault → Shelf → Prop}

def Met (s t : Shelf) : Prop := t = { s with outages := t.outages }

theorem Met.disk {t : Shelf} (h : Met s t) : t.disk = s.disk := by rw [h]

theorem Met.kept {t : Shelf} (h : Met s t) : Kept s t := by
  rw [h]
  exact ⟨⟨rfl, rfl, rfl, rfl, rfl, Nat.le_refl _⟩, rfl, rfl, Drafted.refl s⟩

/-- A call that is met by a failure has not begun. -/
theorem ends_meeting {c : Call} (h : ∀ t, Met s t → Ends act t ok bad)
    (hbad : ∀ f t, Met s t → bad f t) : Ends (meeting c act) s ok bad := by
  unfold meeting
  rw [ends_get_bind]
  cases hc : s.outages c with
  | nil => exact h s rfl
  | cons outcome rest =>
    simp only [ends_modify_bind]
    cases outcome with
    | none => exact h _ rfl
    | some f => exact hbad f _ rfl

end Ends

variable {s t : Shelf} {path : Path} {indent : Json.Indent} {text : String}

theorem kept_disk {d : Disk} (hm : s.medium = .file path indent)
    (hd : Disk.Beside (path.extend ".tmp") s.disk d) : Kept s { s with disk := d } := by
  refine ⟨⟨rfl, rfl, rfl, rfl, rfl, Nat.le_refl _⟩, rfl, rfl, ?_⟩
  unfold Drafted
  rw [hm]
  exact hd

theorem ends_diskStep {c : Call} {f : Disk → Except Fault Disk} {ok : Unit → Shelf → Prop}
    (hok : ∀ t d, Met s t → f t.disk = .ok d → ok () { t with disk := d }) :
    Ends (meeting c (onDisk f)) s ok fun _ t => Kept s t := by
  refine ends_meeting (fun t ht => ?_) fun _ t ht => ht.kept
  unfold onDisk
  rw [ends_get_bind]
  cases hf : f t.disk with
  | ok d => exact hok t d ht hf
  | error e => exact ht.kept

/-- Writing over a file either puts the whole text there or leaves the file alone. -/
theorem ends_writeOver (hm : s.medium = .file path indent) :
    Ends (writeOver path text) s
      (fun _ t => Setup s t ∧ t.items = s.items ∧ t.notices = s.notices ∧
        t.disk.find path = .ok (.file text))
      (fun _ t => Kept s t) := by
  let draft := path.extend ".tmp"
  have hfolders : Ends (meeting .makeFolders (onDisk (·.makeFolders path.parent))) s
      (fun _ t => Kept s t) (fun _ t => Kept s t) :=
    ends_diskStep fun t d ht hd =>
      ht.kept.trans (kept_disk (ht.kept.medium.trans hm) (Disk.makeFolders_beside hd))
  have hwrite : ∀ t, Kept s t → Ends (meeting .writeDraft (onDisk (·.writeText draft text))) t
      (fun _ u => Kept s u ∧ u.disk.find draft = .ok (.file text)) (fun _ u => Kept s u) := by
    intro t ht
    refine (ends_diskStep fun u d hu hd => ?_).mono (fun _ _ h => h) fun _ _ h => ht.trans h
    have hsu := ht.trans hu.kept
    exact ⟨hsu.trans (kept_disk (hsu.medium.trans hm) (Disk.writeText_beside hd)),
      Disk.find_of_writeText hd⟩
  have hmove : ∀ t, Kept s t ∧ t.disk.find draft = .ok (.file text) →
      Ends (meeting .moveDraft (onDisk (·.moveFile draft path))) t
        (fun _ u => Setup s u ∧ u.items = s.items ∧ u.notices = s.notices ∧
          u.disk.find path = .ok (.file text))
        (fun _ u => Kept s u) := by
    intro t ⟨ht, hdraft⟩
    refine (ends_diskStep fun u d hu hd => ?_).mono (fun _ _ h => h) fun _ _ h => ht.trans h
    obtain ⟨hsetup, hitems, hnotices, -⟩ := ht.trans hu.kept
    rw [← hu.disk] at hdraft
    exact ⟨{ hsetup with }, hitems, hnotices, Disk.find_of_moveFile hd hdraft⟩
  exact hfolders.bind fun _ t ht => (hwrite t ht).bind fun _ u hu => hmove u hu

/-- Saving puts the collection where the medium says, or leaves everything alone. -/
theorem ends_save (s : Shelf) :
    Ends save s (fun _ t => Setup s t ∧ t.items = s.items ∧ t.notices = s.notices ∧ Stored t)
      (fun _ t => Kept s t) := by
  refine ends_meeting (fun t ht => ?_) fun _ t ht => ht.kept
  have hk := ht.kept
  rw [ends_get_bind]
  cases hm : t.medium with
  | memory =>
    simp only [ends_pure]
    exact ⟨hk.toSetup, hk.items, hk.notices, by simp [Stored, hm]⟩
  | file path indent =>
    have hwrite : Ends (writeOver path (Exchange.toJsonText indent t.items)) t
        (fun _ u => Setup s u ∧ u.items = s.items ∧ u.notices = s.notices ∧ Stored u)
        (fun _ u => Kept s u) := by
      refine (ends_writeOver hm).mono ?_ fun _ _ hu => hk.trans hu
      rintro _ u ⟨hsetup, hitems, hnotices, hfind⟩
      refine ⟨hk.toSetup.trans hsetup, hitems.trans hk.items, hnotices.trans hk.notices, ?_⟩
      unfold Stored
      rw [hsetup.medium, hm]
      simp only [hitems, hfind]
    exact hwrite.tryCatch fun _ u hu => by simpa using hu

/-- A commit takes effect as a whole or not at all. -/
theorem ends_commit (bs : List Bookmark) (hplaced : numbered s.items = s.items) :
    Ends (commit bs) s (fun _ t => Committed bs s t) (fun _ t => Kept s t) := by
  let s' : Shelf := { s with items := numbered bs }
  have hsave : Ends (tryCatch save fun f => do place s.items; throw f) s'
      (fun _ t => Setup s t ∧ t.items = numbered bs ∧ t.notices = s.notices ∧ Stored t)
      (fun _ t => Kept s t) := by
    have hsave : Ends save s'
        (fun _ t => Setup s t ∧ t.items = numbered bs ∧ t.notices = s.notices ∧ Stored t)
        (fun _ t => Kept s' t) := by
      refine (ends_save s').mono ?_ fun _ _ h => h
      rintro _ t ⟨hsetup, hitems, hnotices, hstored⟩
      exact ⟨{ hsetup with }, hitems, hnotices, hstored⟩
    refine hsave.tryCatch fun f t ht => ?_
    unfold place
    rw [ends_modify_bind, ends_throw]
    exact ⟨{ ht.toSetup with }, hplaced, ht.notices, ht.disk⟩
  unfold commit
  rw [ends_get_bind]
  unfold place
  rw [ends_modify_bind]
  refine hsave.bind ?_
  rintro _ t ⟨hsetup, hitems, hnotices, hstored⟩
  unfold notify
  rw [ends_modify]
  refine ⟨{ hsetup with }, hitems, ?_, hstored⟩
  simp only [hnotices, hsetup.listeners, hitems]

/-- A commit as far as its save: the listeners are told, or the collection before comes back. -/
theorem run_commit (bs : List Bookmark) (s : Shelf) : run (commit bs) s =
    match run save { s with items := numbered bs } with
    | (.ok _, t) => (.ok (), (run notify t).2)
    | (.error f, t) => (.error f, { t with items := numbered s.items }) := by
  unfold commit place
  simp only [run, run_bind, run_get, run_modify, run_tryCatch]
  rcases Act.run save { s with items := numbered bs } with ⟨x, t⟩
  cases x with
  | ok _ => rfl
  | error f => rfl

end LinkShelf.Shelf

import LinkShelf.Proofs.File.Refusal
import LinkShelf.Proofs.Store.Operation
/-!
Shelves whose calls fail, if at all, in the ways in which a store fails: removals and saves as
failed writes, everything that the disk refuses among them. However many of them fail, removing
several bookmarks goes through, and the calls for the collection are still to meet what is due for
them.
-/
namespace LinkShelf

/-- A failure of the store to write, or one that saving makes into such. -/
def Fault.spoilsSave (f : Fault) : Prop := f.isStoreWrite = true ∨ f.family? = some .system

namespace Shelf

open LinkShelf.Act

variable {s t u : Shelf} {c : Call} {α : Type} {id : String}

/-- The failures that a call of a store may meet. -/
def Call.Meets : Call → Fault → Prop
  | .remove, f | .save, f => f.isStoreWrite = true
  | .makeFolders, f | .writeDraft, f | .moveDraft, f => f.spoilsSave
  | .list, f | .removeAll, f => f.isStore = true
  | _, _ => True

/-- Whatever is due is what a store may meet, and no path is one that a disk cannot even look at. -/
structure Troubled (s : Shelf) : Prop where
  due : ∀ c f, some f ∈ s.outages c → Call.Meets c f
  path : match s.medium with
    | .memory => True
    | .file path _ => path.Clean

/-- Some of what was due has been met since, and none of what is due for listing. -/
structure Spent (s t : Shelf) : Prop where
  medium : t.medium = s.medium
  outages : ∀ c, t.outages c <:+ s.outages c
  list : t.outages .list = s.outages .list

theorem Spent.refl (s : Shelf) : Spent s s := ⟨rfl, fun _ => List.suffix_refl _, rfl⟩

theorem Spent.trans (h : Spent s t) (h' : Spent t u) : Spent s u :=
  ⟨h'.medium.trans h.medium, fun c => (h'.outages c).trans (h.outages c), h'.list.trans h.list⟩

theorem Troubled.spent (hs : Troubled s) (h : Spent s t) : Troubled t := by
  refine ⟨fun c f hf => hs.due c f ((h.outages c).subset hf), ?_⟩
  rw [h.medium]
  exact hs.path

theorem suffix_setOutages {rest : List (Option Fault)} (h : rest <:+ s.outages c) (d : Call) :
    (s.setOutages c rest).outages d <:+ s.outages d := by
  unfold setOutages
  by_cases hd : d = c
  · subst hd
    simpa using h
  · simp [hd]

theorem spent_setOutages {rest : List (Option Fault)} (hc : c ≠ .list)
    (h : rest <:+ s.outages c) : Spent s (s.setOutages c rest) :=
  ⟨rfl, suffix_setOutages h, if_neg hc.symm⟩

/-- A call begins, or it meets what is due for it. -/
theorem ends_meeting_due {act : Act α} {ok : α → Shelf → Prop} {bad : Fault → Shelf → Prop}
    (hc : c ≠ .list) (h : ∀ t, Spent s t → Ends act t ok bad)
    (hbad : ∀ f t, some f ∈ s.outages c → Met s t → Spent s t → bad f t) :
    Ends (meeting c act) s ok bad := by
  unfold meeting
  rw [ends_get_bind]
  cases hout : s.outages c with
  | nil => exact h s (.refl s)
  | cons outcome rest =>
    have hspent := spent_setOutages hc (hout ▸ List.suffix_cons outcome rest)
    simp only [ends_modify_bind]
    cases outcome with
    | none => exact h _ hspent
    | some f => exact hbad f _ (by simp [hout]) rfl hspent

section Saving

theorem spent_diskStep {g : Disk → Except Fault Disk} (hc : c ≠ .list)
    (hdue : ∀ f, some f ∈ s.outages c → f.spoilsSave)
    (hg : ∀ d f, g d = .error f → f.family? = some .system) :
    Ends (meeting c (onDisk g)) s (fun _ t => Spent s t)
      (fun f t => f.spoilsSave ∧ Spent s t) := by
  refine ends_meeting_due hc (fun t ht => ?_) fun f t hf _ ht => ⟨hdue f hf, ht⟩
  unfold onDisk
  rw [ends_get_bind]
  cases hd : g t.disk with
  | ok d => exact ⟨ht.medium, ht.outages, ht.list⟩
  | error f => exact ⟨.inr (hg t.disk f hd), ht⟩

theorem spent_writeOver {path : Path} (hs : Troubled s) (hpath : path.Clean) (text : String) :
    Ends (writeOver path text) s (fun _ t => Spent s t)
      (fun f t => f.spoilsSave ∧ Spent s t) := by
  have hdraft : (path.extend ".tmp").Clean := hpath.extend (by decide)
  have hfolders := spent_diskStep (c := .makeFolders) (g := (·.makeFolders path.parent)) nofun
    (hs.due .makeFolders) fun _ _ h => Disk.makeFolders_fault hpath.parent h
  refine hfolders.bind fun _ t ht => ?_
  have hwrite := spent_diskStep (c := .writeDraft)
    (g := (·.writeText (path.extend ".tmp") text)) nofun
    ((hs.spent ht).due .writeDraft) fun _ _ h => Disk.writeText_fault hdraft h
  refine (hwrite.mono (fun _ _ h => ht.trans h) fun _ _ h => ⟨h.1, ht.trans h.2⟩).bind ?_
  intro _ u hu
  have hmove := spent_diskStep (c := .moveDraft)
    (g := (·.moveFile (path.extend ".tmp") path)) nofun
    ((hs.spent hu).due .moveDraft) fun _ _ h => Disk.moveFile_fault h
  exact hmove.mono (fun _ _ h => hu.trans h) fun _ _ h => ⟨h.1, hu.trans h.2⟩

theorem spent_save (hs : Troubled s) : Ends save s (fun _ t => Spent s t)
    (fun f t => f.isStoreWrite = true ∧ Spent s t) := by
  refine ends_meeting_due nofun (fun t ht => ?_) fun f t hf _ ht => ⟨hs.due .save f hf, ht⟩
  have htt := hs.spent ht
  have hclean := htt.path
  rw [ends_get_bind]
  cases hm : t.medium with
  | memory => exact ht
  | file path indent =>
    rw [hm] at hclean
    have hwrite := (spent_writeOver htt hclean (Exchange.toJsonText indent t.items)).mono
      (fun _ _ h => ht.trans h) fun _ _ h => And.intro h.1 (ht.trans h.2)
    refine hwrite.tryCatch fun f u hu => ?_
    rw [ends_throw]
    refine ⟨?_, hu.2⟩
    unfold diskFault
    rcases hu.1 with hf | hf
    · split
      · rfl
      · exact hf
    · rw [hf]
      rfl

theorem spent_commit (hs : Troubled s) (bs : List Bookmark) : Ends (commit bs) s
    (fun _ t => Spent s t) (fun f t => f.isStoreWrite = true ∧ Spent s t) := by
  unfold commit
  rw [ends_get_bind]
  unfold place
  rw [ends_modify_bind]
  have hplaced : Spent s { s with items := numbered bs } := ⟨rfl, fun _ => List.suffix_refl _, rfl⟩
  have hsave := (spent_save (hs.spent hplaced)).mono (fun _ _ h => hplaced.trans h)
    fun _ _ h => And.intro h.1 (hplaced.trans h.2)
  refine (hsave.tryCatch fun f t ht => ?_).bind fun _ t ht => ?_
  · rw [ends_modify_bind, ends_throw]
    exact ⟨ht.1, ht.2.medium, ht.2.outages, ht.2.list⟩
  · unfold notify
    rw [ends_modify]
    exact ⟨ht.medium, ht.outages, ht.list⟩

end Saving

section Removing

theorem spent_remove (hs : Troubled s) : Ends (remove id) s (fun _ t => Spent s t)
    (fun f t => f.isStoreWrite = true ∧ Spent s t) := by
  refine ends_meeting_due nofun (fun t ht => ?_) fun f t hf _ ht => ⟨hs.due .remove f hf, ht⟩
  refine ends_lookUp_bind (fun b _ => ?_) fun _ => ⟨rfl, ht⟩
  rw [ends_get_bind]
  exact (spent_commit (hs.spent ht) _).mono (fun _ _ h => ht.trans h) fun _ _ h =>
    ⟨h.1, ht.trans h.2⟩

/-- What cannot be removed is accounted for, and the next one is tried. -/
theorem spent_removeEach (hs : Troubled s) (targets : List String) (r : Removal) :
    Ends (targets.foldlM removeOne r) s (fun _ t => Spent s t) (fun _ _ => False) := by
  induction targets generalizing r s with
  | nil => exact .refl s
  | cons id targets ih =>
    rw [List.foldlM_cons]
    have hone : Ends (removeOne r id) s (fun _ t => Spent s t) (fun _ _ => False) := by
      refine (ends_accounted (spent_remove hs) r).mono ?_ fun f t h => ?_
      · rintro r' t (⟨ht, -⟩ | ⟨_, ht, -⟩)
        · exact ht
        · exact ht.2
      · rw [h.1] at h
        cases h.2.1
    refine hone.bind fun r' t ht => ?_
    exact (ih (hs.spent ht) r').mono (fun _ _ h => ht.trans h) fun _ _ h => h

/-- Removing several bookmarks goes through, unless it does not even begin. -/
theorem spent_removeAll (hs : Troubled s) (targets : List String) : Ends (removeAll targets) s
    (fun _ t => Spent s t) (fun f t => f.isStore = true ∧ Met s t ∧ Spent s t) := by
  refine ends_meeting_due nofun (fun t ht => ?_) fun f t hf hmet ht =>
    ⟨hs.due .removeAll f hf, hmet, ht⟩
  exact (spent_removeEach (hs.spent ht) targets {}).mono (fun _ _ h => ht.trans h)
    fun _ _ h => h.elim

end Removing

section Listing

/-- The failure, if any, that the next call for something meets. -/
def due (c : Call) (s : Shelf) : Option Fault := (s.outages c).head?.join

theorem due_eq_none (h : ∀ f, some f ∉ s.outages c) : s.due c = none := by
  unfold due
  cases hout : s.outages c with
  | nil => rfl
  | cons outcome rest =>
    cases outcome with
    | none => rfl
    | some f => exact absurd (hout ▸ List.mem_cons_self) (h f)

/-- The shelf at the beginning of a call that meets no failure. -/
def begun (c : Call) (s : Shelf) : Shelf := s.setOutages c (s.outages c).tail

theorem spent_begun (hc : c ≠ .list) (s : Shelf) : Spent s (s.begun c) :=
  spent_setOutages hc (List.tail_suffix _)

theorem run_meeting_begun (h : s.due c = none) (act : Act α) :
    run (meeting c act) s = run act (s.begun c) := by
  unfold due at h
  unfold begun meeting
  simp only [run, run_bind, run_get]
  cases hout : s.outages c with
  | nil =>
    have hsame : s.setOutages c [] = s := by
      have houtages : (fun d => if d = c then [] else s.outages d) = s.outages := by
        funext d
        split
        · rw [‹d = c›, hout]
        · rfl
      rw [setOutages, houtages]
    rw [List.tail_nil, hsame]
  | cons outcome rest =>
    rw [hout] at h
    obtain rfl : outcome = none := h
    rfl

theorem Spent.due (h : Spent s t) : t.due .list = s.due .list := by
  unfold Shelf.due
  rw [h.list]

theorem ends_list_due (s : Shelf) : Ends list s
    (fun bs t => s.due .list = none ∧ bs = s.items ∧ Kept s t)
    (fun f t => s.due .list = some f ∧ Kept s t) := by
  unfold list meeting
  rw [ends_get_bind]
  cases hout : s.outages .list with
  | nil => exact ⟨by simp [Shelf.due, hout], rfl, .refl s⟩
  | cons outcome rest =>
    have hmet : Met s (s.setOutages .list rest) := rfl
    simp only [ends_modify_bind]
    cases outcome with
    | none => exact ⟨by simp [Shelf.due, hout], rfl, hmet.kept⟩
    | some f => exact ⟨by simp [Shelf.due, hout], hmet.kept⟩

end Listing

end Shelf

end LinkShelf

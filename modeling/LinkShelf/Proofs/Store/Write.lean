import LinkShelf.Proofs.Store.Change
import LinkShelf.Proofs.Store.Commit
/-!
The writes of a shelf. Each either changes the collection in the one way its name says, or leaves
everything that can be seen as it was.
-/
namespace LinkShelf.Shelf

open LinkShelf.Act

/-- The operations that change a collection in one commit. -/
inductive Write where
  | create (now : String) (b : Bookmark)
  | update (now id : String) (patch : Members)
  | remove (id : String)
  | replaceAll (bs : List Bookmark)
  | reorder (ids : List String)
  | saveSorted (c : Criterion)

namespace Write

def act : Write → Act Unit
  | .create now b => do let _ ← Shelf.create now b
  | .update now id patch => do let _ ← Shelf.update now id patch
  | .remove id => Shelf.remove id
  | .replaceAll bs => do let _ ← Shelf.replaceAll bs
  | .reorder ids => Shelf.reorder ids
  | .saveSorted c => do let _ ← Shelf.saveSorted c

/-- The bookmarks that a write brings along, with the ids they may have. -/
def brings : Write → List Bookmark
  | .create _ b => [b]
  | .replaceAll bs => bs
  | _ => []

/-- The collection that comes of a write, from one shelf to another. -/
def Yields (w : Write) (s t : Shelf) (bs : List Bookmark) : Prop :=
  match w with
  | .create now b => ∃ c, Entered s.supply s.drawn t.drawn s.items b c ∧
      bs = s.items ++
        [{ c with createdAt := c.createdAt.orElse (.str now), updatedAt := .str now }]
  | .update now id patch => ∃ xs b ys c, s.items = xs ++ b :: ys ∧ b.id = some id ∧
      b.patch patch = .ok c ∧ c.id = some id ∧ bs = xs ++ { c with updatedAt := .str now } :: ys
  | .remove id => ∃ xs b ys, s.items = xs ++ b :: ys ∧ b.id = some id ∧ bs = xs ++ ys
  | .replaceAll given => EnteredAll s.supply s.drawn t.drawn given bs
  | .reorder _ | .saveSorted _ => bs.Perm s.items

end Write

/-- What holds of a shelf at all times, as long as new ids are fresh. -/
structure Orderly (s : Shelf) : Prop where
  fresh : Fresh s.supply
  unused : Unused s.supply s.drawn s.items
  sound : Sound s.items
  heard : ∀ n ∈ s.notices, Sound n.collection

variable {s t : Shelf} {bs : List Bookmark} {b c : Bookmark} {id now : String}

/-- It does not matter what is on the disk, what is due and who listens. -/
theorem Orderly.amid (hs : Orderly s) (disk : Disk) (outages : Call → List (Option Fault))
    (listeners : List Listener) : Orderly { s with disk, outages, listeners } :=
  ⟨hs.fresh, hs.unused, hs.sound, hs.heard⟩

theorem Met.orderly (h : Met s t) (hs : Orderly s) : Orderly t := by
  rw [h]
  exact hs.amid s.disk t.outages s.listeners

/-- A write has been done. -/
def Write.Done (w : Write) (s t : Shelf) : Prop := ∃ bs, w.Yields s t bs ∧ Committed bs s t

/-- What is due plays no part in what a write does. -/
theorem Met.done {w : Write} {u : Shelf} (h : Met s t) (hw : w.Done t u) : w.Done s u := by
  obtain ⟨bs, hy, hc⟩ := hw
  rw [h] at hc hy
  refine ⟨bs, ?_, { hc with }⟩
  cases w <;> exact hy

section LookUp

variable {α : Type} {f : Bookmark → Act α} {bad : Fault → Shelf → Prop}

theorem ends_lookUp {ok : Bookmark → Shelf → Prop}
    (h : ∀ b, s.items.find? (hasId id) = some b → ok b s)
    (hbad : s.items.find? (hasId id) = none → bad (s.missing id) s) :
    Ends (lookUp id) s ok bad := by
  unfold lookUp
  rw [ends_get_bind]
  cases hf : s.items.find? (hasId id) with
  | none => exact hbad hf
  | some b => exact h b hf

theorem ends_lookUp_bind {ok : α → Shelf → Prop}
    (h : ∀ b, s.items.find? (hasId id) = some b → Ends (f b) s ok bad)
    (hbad : s.items.find? (hasId id) = none → bad (s.missing id) s) :
    Ends (lookUp id >>= f) s ok bad := by
  have hfound : Ends (lookUp id) s (fun b t => t = s ∧ s.items.find? (hasId id) = some b) bad :=
    ends_lookUp (fun b hb => ⟨rfl, hb⟩) hbad
  refine hfound.bind ?_
  rintro b t ⟨rfl, hb⟩
  exact h b hb

end LookUp

theorem ends_remove (hs : Orderly s) : Ends (remove id) s
    (fun _ t => (Write.remove id).Done s t) (fun _ t => Kept s t) := by
  refine ends_meeting (fun u hu => ?_) fun _ _ hu => hu.kept
  have hus := hu.orderly hs
  refine ends_lookUp_bind (fun b hb => ?_) fun _ => hu.kept
  obtain ⟨xs, ys, hsplit, hid⟩ := find?_hasId hb
  have hnamed := hus.sound.toNamed
  rw [hsplit] at hnamed
  rw [ends_get_bind]
  refine (ends_commit _ hus.sound.placed).mono (fun _ t ht => hu.done ?_) fun _ _ ht =>
    hu.kept.trans ht
  rw [hsplit, hnamed.eraseP_hasId hid] at ht
  exact ⟨xs ++ ys, ⟨xs, b, ys, hsplit, hid, rfl⟩, ht⟩

theorem ends_update {patch : Members} (hs : Orderly s) : Ends (update now id patch) s
    (fun _ t => (Write.update now id patch).Done s t) (fun _ t => Kept s t) := by
  refine ends_meeting (fun u hu => ?_) fun _ _ hu => hu.kept
  have hus := hu.orderly hs
  refine ends_lookUp_bind (fun b hb => ?_) fun _ => hu.kept
  obtain ⟨xs, ys, hsplit, hid⟩ := find?_hasId hb
  have hnamed := hus.sound.toNamed
  rw [hsplit] at hnamed
  refine ends_lift_bind (fun c hc => ?_) fun _ _ => hu.kept
  rw [ends_get_bind]
  have hcommit : Ends (commit (u.items.map fun x =>
      if hasId id x then { c with updatedAt := .str now } else x)) u
      (fun _ t => Committed (xs ++ { c with updatedAt := .str now } :: ys) u t)
      (fun _ t => Kept s t) := by
    rw [hsplit, hnamed.map_change hid]
    exact (ends_commit _ hus.sound.placed).mono (fun _ _ h => h) fun _ _ ht => hu.kept.trans ht
  refine hcommit.bind fun _ t ht => ends_lookUp (fun _ _ => hu.done ?_) fun hnone => ?_
  · exact ⟨_, ⟨xs, b, ys, c, hsplit, hid, hc, (Bookmark.patch_ok hc).1.trans hid, rfl⟩, ht⟩
  · -- The bookmark that was put there has the id.
    have hmem : some id ∈ ids t.items := by
      rw [ht.items, ids_numbered]
      simp [ids, ← hid, (Bookmark.patch_ok hc).1]
    obtain ⟨x, hx, hxid⟩ := List.mem_map.mp hmem
    exact absurd (hasId_iff.mpr hxid) (List.find?_eq_none.mp hnone x hx)

/-- Only ids have been drawn. -/
def Drew (s t : Shelf) : Prop := t = { s with drawn := t.drawn } ∧ s.drawn ≤ t.drawn

theorem Drew.kept (h : Drew s t) : Kept s t := by
  rw [h.1]
  exact ⟨⟨rfl, rfl, rfl, rfl, rfl, h.2⟩, rfl, rfl, Drafted.refl s⟩

theorem Drew.committed {u : Shelf} (h : Drew s t) (hc : Committed bs t u) : Committed bs s u := by
  have hdrawn := Nat.le_trans h.2 hc.drawn
  rw [h.1] at hc
  exact { hc with drawn := hdrawn }

/-- The id under which a bookmark is entered at the end of a collection. -/
theorem ends_idFor {bad : Fault → Shelf → Prop} (items : List Bookmark) (b : Bookmark) :
    Ends (idFor b fun id => items.any (hasId id)) s
      (fun id t => Entered s.supply s.drawn t.drawn items b (b.underId id) ∧ Drew s t) bad := by
  have hany : items.any (hasId (b.id.getD "")) = true ↔ some (b.id.getD "") ∈ ids items := by
    simp [hasId, ids]
  unfold idFor
  by_cases hb : b.id.getD "" = "" ∨ items.any (hasId (b.id.getD "")) = true
  · have hdrawn : b.id.getD "" = "" ∨ b.id ∈ ids items := by
      cases hid : b.id with
      | none => exact .inl rfl
      | some id =>
        rw [hid, Option.getD_some] at hb hany
        exact hb.imp_right hany.mp
    simp only [if_pos hb]
    refine ⟨?_, rfl, Nat.le_succ _⟩
    rw [Entered, if_pos hdrawn]
    exact ⟨s.drawn, Nat.le_refl _, Nat.lt_succ_self _, rfl⟩
  · cases hid : b.id with
    | none => simp [hid] at hb
    | some id =>
      have hkept : ¬(b.id.getD "" = "" ∨ b.id ∈ ids items) := by
        rw [hid, Option.getD_some] at hb hany ⊢
        exact fun h => hb (h.imp_right hany.mpr)
      simp only [← hid, if_neg hb, ends_pure]
      refine ⟨?_, rfl, Nat.le_refl _⟩
      rw [Entered, if_neg hkept]
      simp [Bookmark.underId, Bookmark.formed, hid]

theorem ends_create (hs : Orderly s) : Ends (create now b) s
    (fun _ t => (Write.create now b).Done s t) (fun _ t => Kept s t) := by
  refine ends_meeting (fun u hu => ?_) fun _ _ hu => hu.kept
  have hus := hu.orderly hs
  rw [ends_get_bind]
  refine (ends_idFor u.items b).bind ?_
  rintro id t ⟨hentered, hdrew⟩
  have hplaced : numbered t.items = t.items := by
    rw [hdrew.kept.items]
    exact hus.sound.placed
  have hdone : ∀ v, Committed (u.items ++ [{ b.underId id with
      createdAt := b.createdAt.orElse (.str now), updatedAt := .str now }]) t v →
      (Write.create now b).Done s v := fun v hv =>
    hu.done ⟨_, ⟨b.underId id, hentered.mono hv.drawn, rfl⟩, hdrew.committed hv⟩
  refine ((ends_commit _ hplaced).mono (fun _ v hv => hdone v hv) fun _ v hv =>
    hu.kept.trans (hdrew.kept.trans hv)).bind fun _ v hv => ?_
  unfold newest
  rw [ends_get_bind]
  exact hv

theorem ends_identify {bad : Fault → Shelf → Prop} (bs : List Bookmark) (s : Shelf) :
    Ends (identify [] bs) s
      (fun cs t => Identified s.supply [] s.drawn bs cs t.drawn ∧ Drew s t) bad := by
  obtain ⟨cs, m, hrun, hcs⟩ := identify_run bs [] s
  exact ends_iff.mpr ⟨fun a t h => by
    obtain ⟨ha, ht⟩ := Prod.mk.inj (hrun.symm.trans h)
    cases ha
    subst ht
    exact ⟨hcs, rfl, hcs.le⟩, fun e t h => by simpa using (Prod.mk.inj (hrun.symm.trans h)).1⟩

theorem ends_replaceAll (hs : Orderly s) (hbs : Unused s.supply s.drawn bs) :
    Ends (replaceAll bs) s (fun _ t => (Write.replaceAll bs).Done s t) (fun _ t => Kept s t) := by
  refine ends_meeting (fun u hu => ?_) fun _ _ hu => hu.kept
  have hus := hu.orderly hs
  have hbs : Unused u.supply u.drawn bs := by
    rw [hu]
    exact hbs
  refine (ends_identify bs u).bind ?_
  rintro cs t ⟨hcs, hdrew⟩
  have hplaced : numbered t.items = t.items := by
    rw [hdrew.kept.items]
    exact hus.sound.placed
  have hcommit : Ends (commit cs) t (fun _ v => (Write.replaceAll bs).Done s v)
      (fun _ v => Kept s v) := by
    refine (ends_commit _ hplaced).mono (fun _ v hv => ?_) fun _ v hv =>
      hu.kept.trans (hdrew.kept.trans hv)
    exact hu.done ⟨cs, (hcs.enteredAll hus.fresh hbs).mono hv.drawn, hdrew.committed hv⟩
  exact hcommit.bind fun _ v hv => ends_get_bind.mpr hv

theorem ends_reorder (hs : Orderly s) (order : List String) : Ends (reorder order) s
    (fun _ t => Committed (arranged order s.items) s t) (fun _ t => Kept s t) := by
  refine ends_meeting (fun u hu => ?_) fun _ _ hu => hu.kept
  rw [ends_get_bind]
  cases hr : u.reorders with
  | false => simpa [hr] using hu.kept
  | true =>
    simp only [if_true]
    refine (ends_commit _ (hu.orderly hs).sound.placed).mono (fun _ t ht => ?_) fun _ _ ht =>
      hu.kept.trans ht
    rw [hu.kept.items, hu] at ht
    exact { ht with }

theorem ends_list (s : Shelf) : Ends list s (fun bs t => bs = s.items ∧ Kept s t)
    (fun _ t => Kept s t) := by
  refine ends_meeting (fun u hu => ?_) fun _ _ hu => hu.kept
  rw [ends_get_bind, ends_pure]
  exact ⟨hu.kept.items, hu.kept⟩

theorem Orderly.after (hs : Orderly s) (h : Setup s t) (hu : Unused s.supply t.drawn t.items)
    (hi : Sound t.items) (hn : ∀ n ∈ t.notices, Sound n.collection) : Orderly t := by
  refine ⟨?_, ?_, hi, hn⟩
  · rw [h.supply]
    exact hs.fresh
  · rw [h.supply]
    exact hu

theorem Unused.mono {supply : Nat → String} {n m : Nat} (h : Unused supply n bs) (hm : n ≤ m) :
    Unused supply m bs := fun k hk => h k (Nat.le_trans hm hk)

theorem ends_fetch (s : Shelf) : Ends (fetch id) s (fun b t => b ∈ s.items ∧ Kept s t)
    (fun _ t => Kept s t) := by
  refine ends_meeting (fun u hu => ?_) fun _ _ hu => hu.kept
  refine ends_lookUp (fun b hb => ⟨?_, hu.kept⟩) fun _ => hu.kept
  rw [← hu.kept.items]
  exact List.mem_of_find?_eq_some hb

theorem Kept.orderly (h : Kept s t) (hs : Orderly s) : Orderly t := by
  refine hs.after h.toSetup ?_ ?_ ?_
  · rw [h.items]
    exact hs.unused.mono h.drawn
  · rw [h.items]
    exact hs.sound
  · rw [h.notices]
    exact hs.heard

theorem Kept.committed {u : Shelf} (h : Kept s t) (hc : Committed bs t u) : Committed bs s u :=
  ⟨h.toSetup.trans hc.toSetup, hc.items, by rw [hc.notices, h.notices, h.listeners], hc.stored⟩

/-- A list has become the collection in the order of a criterion. -/
structure Sorted (c : Criterion) (order : List String) (s t : Shelf) : Prop
    extends Committed (arranged order s.items) s t where
  order : sortedIds c s.items = .ok order

theorem Kept.sorted {c : Criterion} {order : List String} {u : Shelf} (h : Kept s t)
    (hu : Sorted c order t u) : Sorted c order s u := by
  have hcommitted := hu.toCommitted
  have horder := hu.order
  rw [h.items] at hcommitted horder
  exact ⟨h.committed hcommitted, horder⟩

theorem ends_sorted (hs : Orderly s) {c : Criterion} {order : List String}
    (horder : sortedIds c s.items = .ok order) : Ends (do reorder order; pure order) s
      (fun order t => Sorted c order s t) (fun _ t => Kept s t) :=
  (ends_reorder hs order).bind fun _ _ h => ⟨h, horder⟩

theorem ends_saveSorted (hs : Orderly s) (c : Criterion) : Ends (saveSorted c) s
    (fun order t => Sorted c order s t) (fun _ t => Kept s t) := by
  refine ends_meeting (fun u hu => ?_) fun _ _ hu => hu.kept
  refine ((ends_list u).mono (fun _ _ h => h) fun _ _ h => hu.kept.trans h).bind ?_
  rintro _ t ⟨rfl, ht⟩
  have hst := hu.kept.trans ht
  refine ends_lift_bind (fun order horder => ?_) fun _ _ => hst
  rw [← ht.items] at horder
  exact (ends_sorted (hst.orderly hs) horder).mono (fun _ _ h => hst.sorted h) fun _ _ h =>
    hst.trans h

theorem Committed.reordered {order : List String} (hs : Orderly s)
    (h : Committed (arranged order s.items) s t) : (Write.reorder order).Done s t :=
  ⟨_, arranged_perm hs.sound.toNamed order, h⟩

/-- A write does what it says, or nothing that can be seen. -/
theorem ends_write (w : Write) (hs : Orderly s) (hw : Unused s.supply s.drawn w.brings) :
    Ends w.act s (fun _ t => w.Done s t) (fun _ t => Kept s t) := by
  cases w with
  | create now b => exact (ends_create hs).bind fun _ _ h => h
  | update now id patch => exact (ends_update hs).bind fun _ _ h => h
  | remove id => exact ends_remove hs
  | replaceAll bs => exact (ends_replaceAll hs hw).bind fun _ _ h => h
  | reorder order =>
    exact (ends_reorder hs order).mono (fun _ _ h => h.reordered hs) fun _ _ h => h
  | saveSorted c =>
    exact ((ends_saveSorted hs c).mono (fun _ _ h => h.reordered hs) fun _ _ h => h).bind
      fun _ _ h => h

end LinkShelf.Shelf

import LinkShelf.Proofs.Paired
import LinkShelf.Proofs.Sorting
import LinkShelf.Proofs.Store.Opening
import LinkShelf.Store.Order
/-!
Shelves in memory that differ in nothing but their bookmarks. As long as the fields of these are
texts, an order is stored on both or on neither: what stands in a bookmark decides where it goes,
not whether a call goes through or what it meets.
-/
namespace LinkShelf

/-- A bookmark whose fields are texts; a time may be missing. -/
structure Bookmark.Textual (b : Bookmark) : Prop where
  title : IsText b.title
  url : IsText b.url
  timed : b.Timed

def AllTextual (bs : List Bookmark) : Prop := ∀ b ∈ bs, b.Textual

namespace AllTextual

variable {bs cs : List Bookmark}

theorem of_subset (h : AllTextual bs) (hcs : cs ⊆ bs) : AllTextual cs := fun b hb => h b (hcs hb)

theorem numbered (h : AllTextual bs) : AllTextual (Shelf.numbered bs) := by
  intro b hb
  obtain ⟨c, hc, i, rfl⟩ := Shelf.mem_numbered hb
  exact ⟨(h c hc).title, (h c hc).url, (h c hc).timed⟩

theorem arranged (h : AllTextual bs) (ids : List String) : AllTextual (Shelf.arranged ids bs) := by
  intro b hb
  rcases List.mem_append.mp hb with hnamed | hrest
  · obtain ⟨id, -, hfind⟩ := List.mem_filterMap.mp hnamed
    exact h b (List.mem_of_find?_eq_some hfind)
  · exact h b (List.mem_filter.mp hrest).1

theorem identified {supply : Nat → String} {seen : List String} {n m : Nat} (h : AllTextual bs)
    (hids : Shelf.Identified supply seen n bs cs m) : AllTextual cs := by
  induction hids with
  | nil => exact h
  | keep _ _ _ _ ih | draw _ _ ih =>
    have hb := h _ List.mem_cons_self
    intro c hc
    rcases List.mem_cons.mp hc with rfl | hc
    · exact ⟨hb.title, hb.url, hb.timed⟩
    · exact ih (h.of_subset (List.subset_cons_self _ _)) c hc

/-- Texts can always be sorted. -/
theorem sortedIds (h : AllTextual bs) (c : Criterion) : ∃ ids, Shelf.sortedIds c bs = .ok ids := by
  obtain ⟨cs, hcs⟩ : ∃ cs, Bookmark.sortBy c bs = .ok cs := by
    unfold Bookmark.sortBy
    split
    · exact ⟨bs, rfl⟩
    · obtain ⟨p, -, hvalues⟩ := SortValue.exists_orders c.key
      obtain ⟨ps, hps⟩ := Bookmark.keyed_ok fun b hb =>
        (hvalues b (h b hb).timed).imp fun _ hv => hv.1
      rw [hps]
      exact ⟨_, rfl⟩
  unfold Shelf.sortedIds
  rw [hcs]
  exact ⟨_, rfl⟩

end AllTextual

namespace Shelf

open LinkShelf.Act

/-- A shelf in memory on which, and in whose notices, there are texts. -/
structure Textual (s : Shelf) : Prop where
  medium : s.medium = .memory
  items : AllTextual s.items
  notices : ∀ n ∈ s.notices, AllTextual n.collection

/-- Two shelves in memory of the same make, whose calls meet the same failures. The bookmarks on
them are any two lists of bookmarks. -/
structure Alike (s t : Shelf) : Prop where
  name : t.name = s.name
  reorders : t.reorders = s.reorders
  outages : t.outages = s.outages
  left : Textual s
  right : Textual t

variable {s t : Shelf} {c : Call} {α β : Type} {V : α → β → Prop} {E : Fault → Prop}
  {bs cs : List Bookmark}

/-- Lists of texts, whatever the texts. -/
def BothTextual (bs cs : List Bookmark) : Prop := AllTextual bs ∧ AllTextual cs

/-- Whatever is put on two shelves of the same make, they are alike. -/
theorem Alike.filled (h : Alike s t) (hbs : BothTextual bs cs) :
    Alike (run (fill bs) s).2 (run (fill cs) t).2 := by
  obtain ⟨ds, m, hds, hrun⟩ := run_place_identify bs s
  obtain ⟨ds', m', hds', hrun'⟩ := run_place_identify cs t
  unfold fill
  rw [hrun, hrun']
  exact ⟨h.name, h.reorders, h.outages,
    ⟨h.left.medium, (hbs.1.identified hds).numbered, h.left.notices⟩,
    ⟨h.right.medium, (hbs.2.identified hds').numbered, h.right.notices⟩⟩

section Parts

theorem paired_meeting {act : Act α} {act' : Act β}
    (h : Paired Alike V (fun _ => True) act act') :
    Paired Alike V (fun _ => True) (meeting c act) (meeting c act') := by
  refine paired_get_bind fun s t hst => ?_
  rw [hst.outages]
  cases hout : s.outages c with
  | nil => exact h
  | cons outcome rest =>
    have hrest : Paired Alike Eq (fun _ => True) (modify (setOutages c rest))
        (modify (setOutages c rest)) := by
      refine paired_modify fun u v huv => ⟨huv.name, huv.reorders, ?_, ?_, ?_⟩
      · unfold setOutages
        rw [huv.outages]
      · exact ⟨huv.left.medium, huv.left.items, huv.left.notices⟩
      · exact ⟨huv.right.medium, huv.right.items, huv.right.notices⟩
    refine hrest.bind fun _ _ _ => ?_
    cases outcome with
    | none => exact h
    | some f => exact paired_throw trivial

theorem paired_save : Paired Alike Eq (fun _ => True) save save := by
  refine paired_meeting (paired_get_bind fun s t hst => ?_)
  rw [hst.left.medium, hst.right.medium]
  exact paired_pure rfl

theorem paired_place (h : BothTextual bs cs) :
    Paired Alike Eq E (place bs) (place cs) :=
  paired_modify fun _ _ hst => ⟨hst.name, hst.reorders, hst.outages,
    ⟨hst.left.medium, h.1.numbered, hst.left.notices⟩,
    ⟨hst.right.medium, h.2.numbered, hst.right.notices⟩⟩

theorem Textual.notified (h : Textual s) : Textual { s with
    notices := s.notices ++ s.listeners.map fun listener => ⟨listener, s.items⟩ } := by
  refine ⟨h.medium, h.items, fun n hn => ?_⟩
  rcases List.mem_append.mp hn with hn | hn
  · exact h.notices n hn
  · obtain ⟨l, -, rfl⟩ := List.mem_map.mp hn
    exact h.items

theorem paired_notify : Paired Alike Eq E notify notify :=
  paired_modify fun _ _ hst =>
    ⟨hst.name, hst.reorders, hst.outages, hst.left.notified, hst.right.notified⟩

theorem paired_commit (h : BothTextual bs cs) :
    Paired Alike Eq (fun _ => True) (commit bs) (commit cs) := by
  refine paired_get_bind fun s t hst => (paired_place h).bind fun _ _ _ => ?_
  refine Paired.bind (Paired.tryCatch paired_save fun f _ => ?_) fun _ _ _ => paired_notify
  exact (paired_place ⟨hst.left.items, hst.right.items⟩).bind fun _ _ _ => paired_throw trivial

end Parts

section Orders

theorem paired_list : Paired Alike BothTextual (fun _ => True) list list :=
  paired_meeting (paired_get_bind fun _ _ hst => paired_pure ⟨hst.left.items, hst.right.items⟩)

/-- Whichever ids are named, there is a commit on both shelves or on neither. -/
theorem paired_reorder (ids ids' : List String) :
    Paired Alike Eq (fun _ => True) (reorder ids) (reorder ids') := by
  refine paired_meeting (paired_get_bind fun s t hst => ?_)
  rw [hst.reorders, hst.name]
  cases s.reorders with
  | true => exact paired_commit ⟨hst.left.items.arranged ids, hst.right.items.arranged ids'⟩
  | false => exact paired_throw trivial

theorem paired_sortedIds (h : BothTextual bs cs) (c : Criterion) :
    Paired Alike (fun _ _ => True) E (liftM (sortedIds c bs) : Act (List String))
      (liftM (sortedIds c cs) : Act (List String)) := by
  obtain ⟨ids, hids⟩ := h.1.sortedIds c
  obtain ⟨ids', hids'⟩ := h.2.sortedIds c
  exact paired_lift ⟨ids, ids', hids, hids', trivial⟩

theorem paired_saveSorted (c : Criterion) :
    Paired Alike (fun _ _ => True) (fun _ => True) (saveSorted c) (saveSorted c) :=
  paired_meeting (paired_list.bind fun _ _ h => (paired_sortedIds h c).bind fun ids ids' _ =>
    (paired_reorder ids ids').bind fun _ _ _ => paired_pure trivial)

theorem paired_saveOrderAnyway (c : Criterion) :
    Paired Alike (fun _ _ => True) (fun _ => True) (saveOrderAnyway c) (saveOrderAnyway c) := by
  refine paired_list.bind fun _ _ h => (paired_sortedIds h c).bind fun ids ids' _ => ?_
  have hreorder : Paired Alike (fun _ _ => True) (fun _ => True)
      (do reorder ids; pure ids) (do reorder ids'; pure ids') :=
    (paired_reorder ids ids').bind fun _ _ _ => paired_pure trivial
  refine hreorder.tryCatch fun f _ => ?_
  split
  · exact paired_saveSorted c
  · exact paired_throw trivial

theorem paired_saveOrder (c : Criterion) :
    Paired Alike (fun _ _ => True) (fun f => f.isStoreWrite = true)
      (saveOrder c) (saveOrder c) := by
  refine paired_get_bind fun s t hst => (paired_saveOrderAnyway c).tryCatch fun f _ => ?_
  have hfault : t.fault .write "Failed to persist new order" (some f) =
      s.fault .write "Failed to persist new order" (some f) := by
    unfold fault
    rw [hst.name]
  rw [hfault]
  refine paired_throw ?_
  split
  · assumption
  · rfl

end Orders

end Shelf

end LinkShelf

import LinkShelf.Proofs.Agent.Course
import LinkShelf.Proofs.Agent.Storing
import LinkShelf.Proofs.Sorting
/-!
Storing an order and showing one are the same computation. What is on the shelf after an order was
stored is what a sort of the collection by that criterion shows, and storing it once more changes
nothing, unless bookmarks are sorted by their places.
-/
namespace LinkShelf

namespace Plan

variable {step : Step} {key order : String} {bs sorted : List Bookmark}

/-- The sort that shows an order. -/
def sorting (key order : String) : Plan :=
  [{ action := Action.sortBookmarks.name,
     parameters := [("sortBy", .str key), ("order", .str order)] }]

theorem run_sorting
    (h : Bookmark.sortBy (.ofJson (.str key) (.str order)) bs = .ok sorted) :
    run (sorting key order) bs = sorted := by
  have hperform : Step.perform .sortBookmarks
      [("sortBy", .str key), ("order", .str order)] bs bs = .ok sorted := h
  have hknown : Action.ofName? Action.sortBookmarks.name = some .sortBookmarks := by decide
  unfold run sorting
  rw [List.foldl_cons, List.foldl_nil]
  unfold Step.apply Step.known
  simp only [hknown, hperform]

/-- A step with a key and a direction of its own sorts by these, whatever the plan says. -/
theorem criterion_own (p : Plan) (hkey : step.parameters.get "sortBy" = .str key) (hk : key ≠ "")
    (horder : step.parameters.get "order" = .str order) (ho : order ≠ "") :
    criterion step p = .ofJson (.str key) (.str order) := by
  have htruthy : ∀ {t : String}, t ≠ "" → (Json.str t).truthy = true := by
    intro t ht
    simpa [Json.truthy] using ht
  unfold criterion
  simp only [hkey, horder, htruthy ho, if_true]
  split
  · simp only [Json.orElse, htruthy hk, if_true]
  · simp only [Json.orElse, htruthy hk, if_true]

end Plan

namespace Shelf

open LinkShelf.Act

variable {s t : Shelf} {c : Criterion} {order : List String}

theorem Sorted.items_eq (hs : Orderly s) (h : Sorted c order s t) :
    ∃ sorted, Bookmark.sortBy c s.items = .ok sorted ∧ order = orderIds sorted ∧
      t.items = numbered sorted := by
  obtain ⟨sorted, hsorted, rfl⟩ := sortedIds_eq_ok.mp h.order
  refine ⟨sorted, hsorted, rfl, ?_⟩
  rw [h.items, arranged_orderIds hs.sound.toNamed (Bookmark.sortBy_perm hsorted)]

/-- What is in order already stays as it is, whether it can be stored or not. -/
theorem ends_saveOrder_again (hs : Orderly s) (h : s.items.Pairwise (Bookmark.Before c)) :
    Ends (saveOrder c) s (fun _ t => t.items = s.items) (fun _ t => t.items = s.items) := by
  refine (ends_saveOrder hs c).mono (fun order t ht => ?_) fun _ t ht => ht.items
  obtain ⟨sorted, hsorted, -, hitems⟩ := ht.items_eq hs
  rw [Bookmark.sortBy_of_before h] at hsorted
  rw [hitems, ← Except.ok.inj hsorted, hs.sound.placed]

end Shelf

namespace Session

open LinkShelf.Act
open LinkShelf.Shelf (Orderly Kept Stored numbered)

variable {s t : Session} {step : Step} {c : Criterion} {key order : String}

/-- The session ends with a shelf in the order of a criterion. -/
structure Resorted (c : Criterion) (bs : List Bookmark) (s t : Session) : Prop where
  aside : Aside s t
  seen : bs = t.shelf.items
  orderly : Orderly t.shelf
  stored : Stored t.shelf
  items : ∃ sorted, Bookmark.sortBy c s.shelf.items = .ok sorted ∧ t.shelf.items = numbered sorted

theorem ends_storeOrder_resorted (hs : Orderly s.shelf) (c : Criterion) :
    Ends (storeOrder c) s (fun bs t => Resorted c bs s t) (fun _ _ => True) := by
  have hsave : Ends (discard (onShelf (Shelf.saveOrder c))) s
      (fun _ t => ∃ u order, t = s.withShelf u ∧ Shelf.Sorted c order s.shelf u)
      (fun _ _ => True) := by
    refine Ends.discard ((ends_onShelf (Shelf.ends_saveOrder hs c)).mono ?_ fun _ _ _ => trivial)
    rintro order t ⟨u, rfl, hu⟩
    exact ⟨u, order, rfl, hu⟩
  refine hsave.bind ?_
  rintro _ _ ⟨u, order, rfl, hu⟩
  have horderly : Orderly u :=
    (hu.reordered hs).orderly hs (Shelf.unused_nil _ _)
  obtain ⟨sorted, hsorted, -, hitems⟩ := hu.items_eq hs
  have hlist : Ends (onShelf Shelf.list) (s.withShelf u) (fun bs t => Resorted c bs s t)
      (fun _ _ => True) := by
    refine (ends_onShelf (Shelf.ends_list u)).mono ?_ fun _ _ _ => trivial
    rintro _ _ ⟨w, rfl, rfl, hw⟩
    exact ⟨rfl, hw.items.symm, hw.orderly horderly, hw.stored hu.stored, sorted, hsorted,
      hw.items.trans hitems⟩
  refine hlist.tryCatch fun f t _ => ?_
  rw [ends_get_bind, ends_throw]
  trivial

/-- The shelf is in the order that was shown. No bookmark has been lost or changed but for its
place, and what is seen is what is stored. -/
structure SavedAs (shown : List Bookmark) (s t : Session) : Prop where
  items : t.shelf.items = numbered shown
  same : shown.Perm s.shelf.items
  stored : Stored t.shelf
  snapshot : t.snapshot = t.shelf.items
  plan : ∀ p ∈ t.plan, p.isOrdering = false

theorem not_toldSuccess_lost (h : t.events = s.events) (f : Fault) :
    ¬ToldSuccess s (orderLost f t) := by
  have hevents : (orderLost f t).events = s.events ++ [.message orderLostNotice] := by
    rw [← h]
    rfl
  rw [toldSuccess_iff hevents]
  rintro ⟨m, hm, hlevel⟩
  rw [← Event.message.inj hm] at hlevel
  cases hlevel

/-- Nothing that goes wrong with an order is passed on, and success is told only of what is stored
as it was to be. -/
theorem ends_dispatch_resorted (hs : Orderly s.shelf) (hstep : step.isPersist = true)
    (hc : Plan.criterion step s.plan = c) : Ends (dispatch step) s
      (fun _ t => ToldSuccess s t → t.snapshot = t.shelf.items ∧
        t.plan = Plan.withoutOrdering s.plan ∧ ∃ u, Resorted c u.shelf.items s u ∧
          t.shelf = u.shelf)
      (fun _ _ => False) := by
  rw [dispatch_of_isPersist hstep]
  unfold Ends
  rw [← run, run_persistOrder, hc]
  have hstored := ends_iff.mp (ends_storeOrder_resorted hs c)
  have haside := ends_iff.mp (ends_storeOrder c s)
  rcases hr : run (storeOrder c) s with ⟨x, u⟩
  cases x with
  | ok bs =>
    have hu := hstored.1 bs u hr
    obtain rfl := hu.seen
    have hplan : u.plan = s.plan := by rw [hu.aside]
    exact fun _ => ⟨rfl, congrArg Plan.withoutOrdering hplan, u, hu, rfl⟩
  | error f =>
    have hevents : u.events = s.events := by
      have hu := (haside.2 f u hr).2
      rw [hu]
    exact fun htold => absurd htold (not_toldSuccess_lost hevents f)

theorem ends_dispatch_lost {f : Fault} {u : Shelf} (hstep : step.isPersist = true)
    (h : Shelf.run (Shelf.saveOrder (Plan.criterion step s.plan)) s.shelf = (.error f, u)) :
    Ends (dispatch step) s (fun _ t => t.shelf = u ∧ ¬ToldSuccess s t) (fun _ _ => False) := by
  have hsave : Ends (onShelf (Shelf.saveOrder (Plan.criterion step s.plan))) s (fun _ _ => False)
      (fun _ t => t = s.withShelf u) := by
    unfold Ends
    rw [← run, run_onShelf h]
  have hlost : Ends (storeOrder (Plan.criterion step s.plan)) s (fun _ _ => False)
      (fun _ t => t = s.withShelf u) := hsave.discard.bind fun _ _ h => h.elim
  rw [dispatch_of_isPersist hstep]
  unfold Ends
  rw [← run, run_persistOrder]
  rcases hr : run (storeOrder (Plan.criterion step s.plan)) s with ⟨x, v⟩
  cases x with
  | ok bs => exact ((ends_iff.mp hlost).1 bs v hr).elim
  | error g =>
    have hv : v = s.withShelf u := (ends_iff.mp hlost).2 g v hr
    rw [hv]
    exact ⟨rfl, not_toldSuccess_lost rfl g⟩

section Shown

variable {shown : List Bookmark}

/-- Success is told only of an order that is there, and there it stays when it is stored again. -/
theorem ends_dispatch_saved (hs : Orderly s.shelf) (htimed : ∀ b ∈ s.shelf.items, b.Timed)
    (hstep : step.isPersist = true) (hc : Plan.criterion step s.plan = c)
    (hshown : ∀ sorted, Bookmark.sortBy c s.shelf.items = .ok sorted → shown = sorted) :
    Ends (dispatch step) s
      (fun _ t => ToldSuccess s t → SavedAs shown s t ∧
        (c.key ≠ "position" → ∀ disk outages,
          Ends (Shelf.saveOrder c) { t.shelf with disk, outages }
            (fun _ u => u.items = t.shelf.items) fun _ u => u.items = t.shelf.items))
      (fun _ _ => False) := by
  refine (ends_dispatch_resorted hs hstep hc).mono (fun _ t ht htold => ?_) fun _ _ h => h
  obtain ⟨hsnapshot, hplan, u, hu, hshelf⟩ := ht htold
  obtain ⟨sorted, hsorted, hitems⟩ := hu.items
  obtain rfl := hshown sorted hsorted
  rw [← hshelf] at hitems
  have hafter : Orderly t.shelf := hshelf ▸ hu.orderly
  have hleft : ∀ p ∈ t.plan, p.isOrdering = false := by
    rw [hplan]
    exact fun p hp => by simpa using (List.mem_filter.mp hp).2
  refine ⟨⟨hitems, Bookmark.sortBy_perm hsorted, hshelf ▸ hu.stored, hsnapshot, hleft⟩, ?_⟩
  intro hposition disk outages
  have hbefore := Bookmark.before_numbered hposition (Bookmark.sortBy_before htimed hsorted)
  rw [← hitems] at hbefore
  exact Shelf.ends_saveOrder_again (hafter.amid disk outages _) hbefore

/-- The ids handed back are those in the order shown. Where there are none, nothing has changed, and
no success is told. -/
theorem ends_saveOrder_shown (hs : Orderly s.shelf) (hstep : step.isPersist = true)
    (hc : Plan.criterion step s.plan = c)
    (hshown : ∀ sorted, Bookmark.sortBy c s.shelf.items = .ok sorted → shown = sorted) :
    Ends (Shelf.saveOrder c) s.shelf
      (fun ids u => Shelf.ids shown = ids.map some ∧ Shelf.ids u.items = ids.map some)
      (fun _ u => Kept s.shelf u ∧
        Ends (dispatch step) s (fun _ t => t.shelf = u ∧ ¬ToldSuccess s t) fun _ _ => False) := by
  refine ends_iff.mpr ⟨fun ids u hrun => ?_, fun f u hrun => ?_⟩
  · have hu := (ends_iff.mp (Shelf.ends_saveOrder hs c)).1 ids u hrun
    obtain ⟨sorted, hsorted, rfl, hitems⟩ := hu.items_eq hs
    obtain rfl := hshown sorted hsorted
    have hnamed := hs.sound.toNamed.of_subperm (Bookmark.sortBy_perm hsorted).subperm
    exact ⟨hnamed.ids_eq, by rw [hitems, Shelf.ids_numbered, hnamed.ids_eq]⟩
  · rw [← hc] at hrun
    exact ⟨(ends_iff.mp (Shelf.ends_saveOrder hs _)).2 f u hrun, ends_dispatch_lost hstep hrun⟩

end Shown

/-- A step that stores an order, with a key and a direction of its own. If success is told of it,
the shelf is in the order that a sort of the collection by the same key and direction shows, no
bookmark is lost or changed but for its place, what is seen is what is stored, and no step of the
plan orders anything any more. Storing the same order again changes nothing, unless it goes by the
places. The ids that are handed back are those in the order shown. Where the order cannot be stored,
nothing has changed, and no success is told. -/
theorem saved_as_shown (hs : Shelf.Reachable s.shelf) (htimed : ∀ b ∈ s.shelf.items, b.Timed)
    (hstep : step.isPersist = true) (hkey : step.parameters.get "sortBy" = .str key)
    (hk : key ≠ "") (horder : step.parameters.get "order" = .str order) (ho : order ≠ "") :
    let c := Criterion.ofJson (.str key) (.str order)
    let shown := Plan.run (Plan.sorting key order) s.shelf.items
    Ends (dispatch step) s
        (fun _ t => ToldSuccess s t → SavedAs shown s t ∧
          (c.key ≠ "position" → ∀ disk outages,
            Ends (Shelf.saveOrder c) { t.shelf with disk, outages }
              (fun _ u => u.items = t.shelf.items) fun _ u => u.items = t.shelf.items))
        (fun _ _ => False) ∧
      Ends (Shelf.saveOrder c) s.shelf
        (fun ids u => Shelf.ids shown = ids.map some ∧ Shelf.ids u.items = ids.map some)
        (fun _ u => Kept s.shelf u ∧
          Ends (dispatch step) s (fun _ t => t.shelf = u ∧ ¬ToldSuccess s t) fun _ _ => False) ∧
      ∀ ids, Ends (Shelf.reorder ids) s.shelf (fun _ _ => True) fun _ u => Kept s.shelf u := by
  intro c shown
  have horderly := hs.orderly
  have hc : Plan.criterion step s.plan = c := Plan.criterion_own s.plan hkey hk horder ho
  have hshown : ∀ sorted, Bookmark.sortBy c s.shelf.items = .ok sorted → shown = sorted :=
    fun _ h => Plan.run_sorting h
  exact ⟨ends_dispatch_saved horderly htimed hstep hc hshown,
    ends_saveOrder_shown horderly hstep hc hshown,
    fun ids => (Shelf.ends_reorder horderly ids).mono (fun _ _ _ => trivial) fun _ _ h => h⟩

section Twins

/-- The key is an alias, and case does not matter. -/
def orderByName : Step :=
  { action := "persistSortedOrder",
    parameters := [("sortBy", .str "Name"), ("order", .str "ascending")] }

theorem twinShelf_timed : ∀ b ∈ twinShelf.items, b.Timed := by
  have htimes : twinShelf.items.map (fun b => (b.createdAt, b.updatedAt)) =
      [(.null, .null), (.null, .null)] := by
    unfold twinShelf
    rfl
  intro b hb
  have hmem : (b.createdAt, b.updatedAt) ∈ [(Json.null, Json.null), (.null, .null)] :=
    htimes ▸ List.mem_map_of_mem hb
  simp only [List.mem_cons, List.not_mem_nil, or_false, or_self, Prod.mk.injEq] at hmem
  exact ⟨.inl hmem.1, .inl hmem.2⟩

/-- The blank before the other title comes first. -/
theorem twins_saved_as_shown :
    Shelf.ids (run (dispatch orderByName) { shelf := twinShelf }).2.shelf.items =
        [some "b", some "a"] ∧
      Ends (dispatch orderByName) { shelf := twinShelf }
        (fun _ t => ToldSuccess { shelf := twinShelf } t →
          SavedAs (Plan.run (Plan.sorting "Name" "ascending") twinShelf.items)
            { shelf := twinShelf } t)
        fun _ _ => False := by
  have hstep : orderByName.isPersist = true := by decide
  have hkey : orderByName.parameters.get "sortBy" = .str "Name" := rfl
  have horder : orderByName.parameters.get "order" = .str "ascending" := rfl
  have hsaved := saved_as_shown (s := { shelf := twinShelf }) twinShelf_reachable twinShelf_timed
    hstep hkey (by decide) horder (by decide)
  exact ⟨by decide +kernel, hsaved.1.mono (fun _ _ h htold => (h htold).1) fun _ _ h => h⟩

end Twins

end Session

end LinkShelf

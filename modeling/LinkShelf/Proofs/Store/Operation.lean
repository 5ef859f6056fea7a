import LinkShelf.Proofs.Store.Write
import LinkShelf.Store.Removal
/-!
All operations of a shelf, and that each leaves the shelf in order: ids are there and distinct,
bookmarks are in form, and every collection that a listener was told was so as well.
-/
namespace LinkShelf.Shelf

open LinkShelf.Act

variable {s t u : Shelf} {bs cs xs ys : List Bookmark} {b c : Bookmark} {id : String}
  {supply : Nat → String} {n m : Nat}

theorem unused_iff : Unused supply n bs ↔ ∀ k, n ≤ k → some (supply k) ∉ ids bs := by
  simp only [Unused, ids, List.mem_map, not_exists, not_and]

theorem Unused.of_ids (h : Unused supply n bs) (hids : ids cs ⊆ ids bs) : Unused supply n cs :=
  unused_iff.mpr fun k hk hm => unused_iff.mp h k hk (hids hm)

/-- The id under which a bookmark is entered is none of those before it, and none to come. -/
theorem Entered.new (hf : Fresh supply) (h : Entered supply n m bs b c) (hle : n ≤ m)
    (hbs : Unused supply n bs) (hb : Unused supply n [b]) :
    c.formed = c ∧ (∃ id, c.id = some id ∧ id ≠ "" ∧ some id ∉ ids bs) ∧ Unused supply m [c] := by
  unfold Entered at h
  by_cases hdrawn : b.id.getD "" = "" ∨ b.id ∈ ids bs
  · rw [if_pos hdrawn] at h
    obtain ⟨k, hk, hkm, rfl⟩ := h
    refine ⟨b.underId_formed _, ⟨supply k, rfl, hf.filled k, unused_iff.mp hbs k hk⟩, ?_⟩
    intro j hj x hx he
    rw [List.mem_singleton.mp hx, Bookmark.underId_id] at he
    have := hf.distinct k j (Option.some.inj he)
    omega
  · rw [if_neg hdrawn] at h
    subst h
    rw [not_or] at hdrawn
    refine ⟨b.formed_formed, ?_, ?_⟩
    · cases hid : b.id with
      | none => simp [hid] at hdrawn
      | some id =>
        rw [hid] at hdrawn
        exact ⟨id, hid, hdrawn.1, hdrawn.2⟩
    · intro j hj x hx
      rw [List.mem_singleton.mp hx, Bookmark.formed_id]
      exact hb j (Nat.le_trans hle hj) b (by simp)

theorem EnteredAll.unused (hf : Fresh supply) (h : EnteredAll supply n m bs cs) (hle : n ≤ m)
    (hbs : Unused supply n bs) : Unused supply m cs := by
  intro k hk c hc
  obtain ⟨i, hi⟩ := List.mem_iff_getElem?.mp hc
  have hlt : i < bs.length := by
    rw [← h.length]
    exact (List.getElem?_eq_some_iff.mp hi).1
  have hb := List.getElem?_eq_getElem hlt
  have hbefore : Unused supply n (bs.take i) := fun j hj x hx =>
    hbs j hj x (List.mem_of_mem_take hx)
  have hthis : Unused supply n [bs[i]] := fun j hj x hx => by
    rw [List.mem_singleton.mp hx]
    exact hbs j hj _ (List.getElem_mem hlt)
  exact ((h.each i _ c hb hi).new hf hle hbefore hthis).2.2 k hk c (by simp)

/-- What a write yields is in order, whatever it was made from. -/
theorem Write.Yields.named {w : Write} (hs : Orderly s) (hw : Unused s.supply s.drawn w.brings)
    (hle : s.drawn ≤ t.drawn) (h : w.Yields s t bs) : Named bs ∧ Unused s.supply t.drawn bs := by
  have hsound := hs.sound.toNamed
  have hunused := hs.unused.mono hle
  cases w with
  | create now b =>
    obtain ⟨c, hc, rfl⟩ := h
    obtain ⟨hf, ⟨id, hid, hne, hnew⟩, hcu⟩ := hc.new hs.fresh hle hs.unused hw
    refine ⟨hsound.append hid hne hnew ?_, ?_⟩
    · rw [Bookmark.formed_iff] at hf ⊢
      exact hf
    · intro k hk x hx
      rcases List.mem_append.mp hx with hx | hx
      · exact hunused k hk x hx
      · rw [List.mem_singleton.mp hx]
        exact hcu k hk c (by simp)
  | update now id patch =>
    obtain ⟨xs, b, ys, c, hsplit, hid, hc, -, rfl⟩ := h
    obtain ⟨hcid, hf⟩ := Bookmark.patch_ok hc
    rw [hsplit] at hsound hunused
    refine ⟨hsound.replace hcid ?_, hunused.of_ids ?_⟩
    · rw [Bookmark.formed_iff] at hf ⊢
      exact hf
    · simp [ids, hcid]
  | remove id =>
    obtain ⟨xs, b, ys, hsplit, hid, rfl⟩ := h
    rw [hsplit] at hsound hunused
    refine ⟨hsound.drop, hunused.of_ids ?_⟩
    intro x hx
    simp only [ids, List.map_append, List.map_cons, List.mem_append, List.mem_cons] at hx ⊢
    tauto
  | replaceAll given => exact ⟨EnteredAll.named h, EnteredAll.unused hs.fresh h hle hw⟩
  | reorder order | saveSorted c =>
    exact ⟨hsound.of_subperm h.subperm, hunused.of_ids fun x hx => (h.map _).subset hx⟩

theorem Committed.orderly (hs : Orderly s) (h : Committed bs s t) (hbs : Named bs)
    (hu : Unused s.supply t.drawn bs) : Orderly t := by
  have hsound := hbs.numbered
  refine hs.after h.toSetup ?_ ?_ fun n hn => ?_
  · rw [h.items]
    exact hu.of_ids (by simp)
  · rw [h.items]
    exact hsound
  · rw [h.notices] at hn
    rcases List.mem_append.mp hn with hn | hn
    · exact hs.heard n hn
    · obtain ⟨l, -, rfl⟩ := List.mem_map.mp hn
      exact hsound

theorem Write.Done.orderly {w : Write} (hs : Orderly s) (hw : Unused s.supply s.drawn w.brings)
    (h : w.Done s t) : Orderly t := by
  obtain ⟨bs, hy, hc⟩ := h
  obtain ⟨hn, hu⟩ := hy.named hs hw hc.drawn
  exact hc.orderly hs hn hu

/-- Several bookmarks have been removed, each in a commit of its own; `count` of them. -/
structure Removed (targets : List String) (count : Nat) (s t : Shelf) : Prop
    extends Setup s t where
  items : ∃ gone, gone ⊆ targets ∧
    t.items = numbered (s.items.filter fun b => !gone.any (hasId · b))
  orderly : Orderly t
  kept : count = 0 → Kept s t
  stored : 0 < count → Stored t

theorem Kept.stored (h : Kept s t) (hs : Stored s) : Stored t := by
  unfold Stored at hs ⊢
  have hd := h.disk
  unfold Drafted at hd
  rw [h.medium, h.items]
  cases hm : s.medium with
  | memory => trivial
  | file path indent =>
    rw [hm] at hs hd
    exact hd.spares.find hs

/-- One target after another: it is removed in a commit of its own, or nothing has changed and it is
told why. -/
inductive Removes : List String → List String → List (String × String) → Shelf → Shelf → Prop where
  | nil {s t : Shelf} (h : Kept s t) : Removes [] [] [] s t
  | gone {s t u : Shelf} {id : String} {targets gone : List String}
      {lost : List (String × String)} (h : (Write.remove id).Done s t)
      (hrest : Removes targets gone lost t u) : Removes (id :: targets) (id :: gone) lost s u
  | kept {s t u : Shelf} {id why : String} {targets gone : List String}
      {lost : List (String × String)} (h : Kept s t) (hrest : Removes targets gone lost t u) :
      Removes (id :: targets) gone ((id, why) :: lost) s u

namespace Removes

variable {targets gone : List String} {lost : List (String × String)}

theorem subset (h : Removes targets gone lost s t) : gone ⊆ targets := by
  induction h with
  | nil => exact fun _ h => h
  | gone _ _ ih => exact List.cons_subset_cons _ ih
  | kept _ _ ih => exact List.subset_cons_of_subset _ ih

theorem setup (h : Removes targets gone lost s t) : Setup s t := by
  induction h with
  | nil h => exact h.toSetup
  | gone h _ ih =>
    obtain ⟨bs, -, hc⟩ := h
    exact hc.toSetup.trans ih
  | kept h _ ih => exact h.toSetup.trans ih

theorem orderly (hs : Orderly s) (h : Removes targets gone lost s t) : Orderly t := by
  induction h with
  | nil h => exact h.orderly hs
  | gone h _ ih => exact ih (h.orderly hs (unused_nil _ _))
  | kept h _ ih => exact ih (h.orderly hs)

theorem rest (h : Removes targets [] lost s t) : Kept s t := by
  generalize hgone : ([] : List String) = gone at h
  induction h with
  | nil h => exact h
  | gone _ _ _ => cases hgone
  | kept h _ ih => exact h.trans (ih hgone)

theorem stored (h : Removes targets gone lost s t) (hgone : gone ≠ []) : Stored t := by
  induction h with
  | nil => exact absurd rfl hgone
  | @gone _ _ _ _ _ gone _ h hrest ih =>
    obtain ⟨bs, -, hc⟩ := h
    cases gone with
    | nil => exact hrest.rest.stored hc.stored
    | cons id gone => exact ih (List.cons_ne_nil id gone)
  | kept _ _ ih => exact ih hgone

/-- What is left are the bookmarks of other ids than those that are gone. -/
theorem items (hs : Orderly s) (h : Removes targets gone lost s t) :
    t.items = numbered (s.items.filter fun b => !gone.any (hasId · b)) := by
  induction h with
  | nil h => simp [h.items, hs.sound.placed]
  | @gone _ _ _ id _ gone _ h _ ih =>
    have hnext := ih (h.orderly hs (unused_nil _ _))
    obtain ⟨_, ⟨xs, b, ys, hsplit, hid, rfl⟩, hc⟩ := h
    have hnamed := hs.sound.toNamed
    rw [hsplit] at hnamed
    rw [hnext, hc.items, ← hnamed.filter_other hid, ← hsplit, filter_gone_cons,
      numbered_filter (fun x => !gone.any (hasId · x)) (fun _ => rfl)]
  | kept h _ ih => rw [ih (h.orderly hs), h.items]

theorem length_items (hs : Orderly s) (h : Removes targets gone lost s t) :
    gone.length + t.items.length = s.items.length := by
  induction h with
  | nil h => simp [h.items]
  | @gone _ t _ id _ gone _ h _ ih =>
    have hnext := ih (h.orderly hs (unused_nil _ _))
    obtain ⟨_, ⟨xs, b, ys, hsplit, -, rfl⟩, hc⟩ := h
    have hone : t.items.length + 1 = (xs ++ b :: ys).length := by
      simp [hc.items, numbered]
      omega
    rw [List.length_cons, hsplit]
    omega
  | kept h _ ih =>
    have hnext := ih (h.orderly hs)
    rw [h.items] at hnext
    exact hnext

theorem removed (hs : Orderly s) (h : Removes targets gone lost s t) :
    Removed targets gone.length s t := by
  refine ⟨h.setup, ⟨gone, h.subset, h.items hs⟩, h.orderly hs, fun hzero => ?_, fun hpos => ?_⟩
  · obtain rfl := List.length_eq_zero_iff.mp hzero
    exact h.rest
  · exact h.stored (List.ne_nil_of_length_pos hpos)

theorem later (h : Kept s t) (hu : Removes targets gone lost t u) :
    Removes targets gone lost s u := by
  cases hu with
  | nil hu => exact .nil (h.trans hu)
  | gone hdone hrest =>
    obtain ⟨bs, hyields, hc⟩ := hdone
    exact .gone ⟨bs, by rw [Write.Yields, ← h.items]; exact hyields, h.committed hc⟩ hrest
  | kept hkept hrest => exact .kept (h.trans hkept) hrest

end Removes

/-- An account of removals, with some more added to it. -/
def accounted (r : Removal) (targets gone : List String) (lost : List (String × String)) :
    Removal :=
  { total := r.total + targets.length, succeeded := r.succeeded + gone.length,
    failures := r.failures ++ lost }

theorem accounted_nil (r : Removal) : accounted r [] [] [] = r := by
  simp [accounted]

theorem accounted_cons (r : Removal) (targets gone gone' : List String)
    (lost lost' : List (String × String)) :
    accounted (accounted r [id] gone lost) targets gone' lost' =
      accounted r (id :: targets) (gone ++ gone') (lost ++ lost') := by
  simp only [accounted, List.length_cons, List.length_nil, List.length_append,
    List.append_assoc, Removal.mk.injEq, and_true]
  omega

theorem run_removeOne (r : Removal) (id : String) (s : Shelf) : run (removeOne r id) s =
    match run (remove id) s with
    | (.ok _, t) => (.ok (accounted r [id] [id] []), t)
    | (.error f, t) =>
      if f.isStoreWrite then (.ok (accounted r [id] [] [(id, f.message)]), t)
      else (.error f, t) := by
  unfold removeOne
  simp only [run, run_bind, run_tryCatch]
  rcases Act.run (remove id) s with ⟨x, t⟩
  cases x with
  | ok _ => simp [accounted]
  | error f =>
    simp only
    split
    · simp [accounted]
    · rfl

/-- What a removal comes to is accounted for, unless it fails in another way than to be written. -/
theorem ends_accounted {ok : Shelf → Prop} {bad : Fault → Shelf → Prop}
    (h : Ends (remove id) s (fun _ t => ok t) bad) (r : Removal) :
    Ends (removeOne r id) s
      (fun r' t => ok t ∧ r' = accounted r [id] [id] [] ∨
        ∃ f, bad f t ∧ r' = accounted r [id] [] [(id, f.message)])
      (fun f t => f.isStoreWrite = false ∧ bad f t) := by
  obtain ⟨hok, hbad⟩ := ends_iff.mp h
  unfold Ends
  rw [← run, run_removeOne]
  rcases hr : run (remove id) s with ⟨x, t⟩
  cases x with
  | ok a => exact .inl ⟨hok a t hr, rfl⟩
  | error f =>
    cases hf : f.isStoreWrite with
    | true =>
      simp only [hf, if_true]
      exact .inr ⟨f, hbad f t hr, rfl⟩
    | false =>
      simp only [hf, Bool.false_eq_true, if_false]
      exact ⟨trivial, hbad f t hr⟩

theorem ends_removeOne (hs : Orderly s) (r : Removal) : Ends (removeOne r id) s
    (fun r' t => (Write.remove id).Done s t ∧ r' = accounted r [id] [id] [] ∨
      Kept s t ∧ ∃ why, r' = accounted r [id] [] [(id, why)])
    (fun _ t => Kept s t) := by
  refine (ends_accounted (ends_remove hs) r).mono ?_ fun _ _ h => h.2
  rintro r' t (h | ⟨f, ht, hr⟩)
  · exact .inl h
  · exact .inr ⟨ht, f.message, hr⟩

/-- Each target is accounted for, up to the one at which a removal fails in another way. -/
theorem ends_removeEach (targets : List String) (hs : Orderly s) (r : Removal) :
    Ends (targets.foldlM removeOne r) s
      (fun r' t => ∃ gone lost, Removes targets gone lost s t ∧
        r' = accounted r targets gone lost)
      (fun _ t => ∃ done gone lost, done <+: targets ∧ Removes done gone lost s t) := by
  induction targets generalizing r s with
  | nil => exact ⟨[], [], .nil (.refl s), (accounted_nil r).symm⟩
  | cons id targets ih =>
    rw [List.foldlM_cons]
    refine ((ends_removeOne hs r).mono (fun _ _ h => h) fun _ t ht =>
      ⟨[], [], [], List.nil_prefix, .nil ht⟩).bind ?_
    rintro r' t (⟨ht, rfl⟩ | ⟨ht, why, rfl⟩)
    · have hto : Orderly t := ht.orderly hs (unused_nil _ _)
      refine (ih hto _).mono ?_ ?_
      · rintro _ u ⟨gone, lost, hu, rfl⟩
        exact ⟨id :: gone, lost, .gone ht hu, accounted_cons ..⟩
      · rintro _ u ⟨done, gone, lost, hdone, hu⟩
        exact ⟨id :: done, id :: gone, lost, List.cons_prefix_cons.mpr ⟨rfl, hdone⟩,
          .gone ht hu⟩
    · refine (ih (ht.orderly hs) _).mono ?_ ?_
      · rintro _ u ⟨gone, lost, hu, rfl⟩
        exact ⟨gone, (id, why) :: lost, .kept ht hu, accounted_cons ..⟩
      · rintro _ u ⟨done, gone, lost, hdone, hu⟩
        exact ⟨id :: done, gone, (id, why) :: lost, List.cons_prefix_cons.mpr ⟨rfl, hdone⟩,
          .kept ht hu⟩

theorem ends_removeAll_each (targets : List String) (hs : Orderly s) :
    Ends (removeAll targets) s
      (fun r t => ∃ gone lost, Removes targets gone lost s t ∧
        r = accounted {} targets gone lost)
      (fun _ t => ∃ done gone lost, done <+: targets ∧ Removes done gone lost s t) := by
  refine ends_meeting (fun u hu => ?_) fun _ t ht =>
    ⟨[], [], [], List.nil_prefix, .nil ht.kept⟩
  refine (ends_removeEach targets (hu.orderly hs) {}).mono ?_ ?_
  · rintro r t ⟨gone, lost, ht, rfl⟩
    exact ⟨gone, lost, ht.later hu.kept, rfl⟩
  · rintro _ t ⟨done, gone, lost, hdone, ht⟩
    exact ⟨done, gone, lost, hdone, ht.later hu.kept⟩

/-- Removing several bookmarks removes none but those, and what is stored is what is left. -/
theorem ends_removeAll (targets : List String) (hs : Orderly s) : Ends (removeAll targets) s
    (fun r t => Removed targets r.succeeded s t)
    (fun _ t => ∃ count, Removed targets count s t) := by
  refine (ends_removeAll_each targets hs).mono ?_ ?_
  · rintro r t ⟨gone, lost, ht, rfl⟩
    have hcount : (accounted {} targets gone lost).succeeded = gone.length := Nat.zero_add _
    rw [hcount]
    exact ht.removed hs
  · rintro _ t ⟨done, gone, lost, hdone, ht⟩
    have hremoved := ht.removed hs
    obtain ⟨ids, hids, hitems⟩ := hremoved.items
    exact ⟨gone.length, { hremoved with items := ⟨ids, fun _ h => hdone.subset (hids h), hitems⟩ }⟩

end LinkShelf.Shelf

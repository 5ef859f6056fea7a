import LinkShelf.Proofs.Agent.Effect
/-!
What a reply does to the session, step by step. A step that stores an order asks its shelf to store
it and then for the collection. If both go through, the steps that order the view leave the plan;
if not, the plan stays and the user is told. Every other step leaves the plan alone.
-/
namespace LinkShelf

theorem Fault.isStore_of_isStoreWrite {f : Fault} (h : f.isStoreWrite = true) :
    f.isStore = true := by
  cases f with
  | store kind text source cause => rfl
  | _ => cases h

namespace Shelf

open LinkShelf.Act

theorem ends_saveOrder_fault (c : Criterion) (s : Shelf) :
    Ends (saveOrder c) s (fun _ _ => True) (fun f _ => f.isStore = true) := by
  unfold saveOrder
  rw [ends_get_bind]
  refine (ends_any _ s).tryCatch fun f t _ => ?_
  rw [ends_throw]
  split
  · exact Fault.isStore_of_isStoreWrite ‹_›
  · rfl

theorem run_saveOrderAnyway (c : Criterion) (s : Shelf) :
    run (saveOrderAnyway c) s =
      match run list s with
      | (.error f, t) => (.error f, t)
      | (.ok bs, t) =>
        match sortedIds c bs with
        | .error f => (.error f, t)
        | .ok ids =>
          match run (reorder ids) t with
          | (.ok _, u) => (.ok ids, u)
          | (.error f, u) =>
            if f.family? = some .unsupported then run (saveSorted c) u else (.error f, u) := by
  unfold saveOrderAnyway
  simp only [run, run_bind, run_lift, run_tryCatch, run_pure]
  rcases LinkShelf.Act.run list s with ⟨x, t⟩
  cases x with
  | error f => rfl
  | ok bs =>
    cases hids : sortedIds c bs with
    | error f => simp only [hids]
    | ok ids =>
      simp only [hids]
      rcases LinkShelf.Act.run (reorder ids) t with ⟨y, u⟩
      cases y with
      | ok _ => rfl
      | error f =>
        simp only
        split
        · rfl
        · rfl

/-- A call fails on the way to a stored order: the one for the collection, those that store the
order, or the one for the collection after that. -/
inductive Unstored (c : Criterion) (s : Shelf) : Prop where
  | unlisted {f : Fault} {t : Shelf} (h : run list s = (.error f, t))
  | unsorted {bs : List Bookmark} {f : Fault} {t : Shelf} (hlist : run list s = (.ok bs, t))
      (h : sortedIds c bs = .error f)
  | unordered {bs : List Bookmark} {ids : List String} {f : Fault} {t u : Shelf}
      (hlist : run list s = (.ok bs, t)) (hids : sortedIds c bs = .ok ids)
      (h : run (reorder ids) t = (.error f, u)) (hf : f.family? ≠ some .unsupported)
  | unsaved {bs : List Bookmark} {ids : List String} {f g : Fault} {t u v : Shelf}
      (hlist : run list s = (.ok bs, t)) (hids : sortedIds c bs = .ok ids)
      (hreorder : run (reorder ids) t = (.error f, u)) (hf : f.family? = some .unsupported)
      (h : run (saveSorted c) u = (.error g, v))
  | unseen {ids : List String} {f : Fault} {t u : Shelf}
      (hsave : run (saveOrder c) s = (.ok ids, t)) (h : run list t = (.error f, u))

theorem run_saveOrder_error {c : Criterion} {s t : Shelf} {f : Fault}
    (h : run (saveOrderAnyway c) s = (.error f, t)) :
    ∃ g, run (saveOrder c) s = (.error g, t) := by
  unfold run at h
  unfold saveOrder
  simp only [run, run_bind, run_get, run_tryCatch, h, run_throw]
  exact ⟨_, rfl⟩

theorem Unstored.saving {c : Criterion} {s : Shelf} (h : Unstored c s) :
    (∃ f t, run (saveOrder c) s = (.error f, t)) ∨
      ∃ ids t f u, run (saveOrder c) s = (.ok ids, t) ∧ run list t = (.error f, u) := by
  have hfails : ∀ f t, run (saveOrderAnyway c) s = (.error f, t) →
      ∃ f t, run (saveOrder c) s = (.error f, t) := by
    intro f t ht
    obtain ⟨g, hg⟩ := run_saveOrder_error ht
    exact ⟨g, t, hg⟩
  have hanyway := run_saveOrderAnyway c s
  cases h with
  | unlisted h =>
    rw [h] at hanyway
    exact .inl (hfails _ _ hanyway)
  | unsorted hlist h =>
    simp only [hlist, h] at hanyway
    exact .inl (hfails _ _ hanyway)
  | unordered hlist hids h hf =>
    simp only [hlist, hids, h, if_neg hf] at hanyway
    exact .inl (hfails _ _ hanyway)
  | unsaved hlist hids hreorder hf h =>
    simp only [hlist, hids, hreorder, if_pos hf] at hanyway
    exact .inl (hfails _ _ (hanyway.trans h))
  | unseen hsave h => exact .inr ⟨_, _, _, _, hsave, h⟩

end Shelf

namespace Session

open LinkShelf.Act

variable {s t u : Session} {step : Step} {steps : Plan} {f : Fault} {bs : List Bookmark}

/-- A message of success was among those told. -/
def ToldSuccess (s t : Session) : Prop :=
  ∃ m, .message m ∈ t.events.drop s.events.length ∧ m.level = .success

theorem toldSuccess_iff {e : Event} (h : t.events = s.events ++ [e]) :
    ToldSuccess s t ↔ ∃ m, e = .message m ∧ m.level = .success := by
  unfold ToldSuccess
  rw [h, List.drop_left]
  constructor
  · rintro ⟨m, hm, hlevel⟩
    exact ⟨m, (List.mem_singleton.mp hm).symm, hlevel⟩
  · rintro ⟨m, rfl, hlevel⟩
    exact ⟨m, List.mem_singleton.mpr rfl, hlevel⟩

/-- What is asked of the shelf for an order: to store it, and then the collection. -/
def storeOrder (c : Criterion) : Act (List Bookmark) := do
  discard (onShelf (Shelf.saveOrder c))
  reload

/-- A step that stores an order, and does so. -/
def stores (step : Step) (s : Session) : Bool :=
  step.isPersist && (run (storeOrder (Plan.criterion step s.plan)) s).1.isOk

/-- Nothing has changed but the shelf and what is seen of it. -/
def Aside (s t : Session) : Prop := t = { s with shelf := t.shelf, snapshot := t.snapshot }

theorem Aside.trans (h : Aside s t) (h' : Aside t u) : Aside s u := by
  unfold Aside at h h' ⊢
  rw [h', h]

theorem aside_onShelf {α : Type} (act : Shelf.Act α) (s : Session) :
    Ends (onShelf act) s (fun _ t => Aside s t) (fun _ t => Aside s t) := by
  have haside : ∀ t, (∃ u, t = s.withShelf u ∧ True) → Aside s t := by
    intro t ht
    obtain ⟨u, rfl, -⟩ := ht
    rfl
  exact (ends_onShelf (ends_any act s.shelf)).mono (fun _ => haside) fun _ => haside

theorem ends_reload_fault (s : Session) : Ends reload s (fun _ t => Aside s t)
    (fun f t => f.isStore = true ∧ Aside s t) := by
  refine (aside_onShelf Shelf.list s).tryCatch fun f t ht => ?_
  rw [ends_get_bind, ends_throw]
  refine ⟨?_, ht⟩
  cases hf : f.isStore with
  | true => simpa using hf
  | false => rfl

theorem ends_storeOrder (c : Criterion) (s : Session) : Ends (storeOrder c) s
    (fun _ t => Aside s t) (fun f t => f.isStore = true ∧ Aside s t) := by
  have hsave : Ends (discard (onShelf (Shelf.saveOrder c))) s (fun _ t => Aside s t)
      (fun f t => f.isStore = true ∧ Aside s t) := by
    refine Ends.discard ((ends_onShelf (Shelf.ends_saveOrder_fault c s.shelf)).mono ?_ ?_)
    · rintro ids t ⟨u, rfl, -⟩
      rfl
    · rintro f t ⟨u, rfl, hf⟩
      exact ⟨hf, rfl⟩
  refine hsave.bind fun _ t ht => ?_
  exact (ends_reload_fault t).mono (fun _ _ h => ht.trans h) fun _ _ h => ⟨h.1, ht.trans h.2⟩

theorem run_onShelf {α : Type} {act : Shelf.Act α} {x : Except Fault α} {u : Shelf}
    (h : Shelf.run act s.shelf = (x, u)) : run (onShelf act) s = (x, s.withShelf u) := by
  unfold onShelf
  simp only [run, run_bind, run_get, h, run_set]
  cases x with
  | ok a => rfl
  | error f => rfl

/-- If a call fails on the way, no order is stored. -/
theorem ends_storeOrder_unstored {c : Criterion} (h : Shelf.Unstored c s.shelf) :
    Ends (storeOrder c) s (fun _ _ => False) (fun _ _ => True) := by
  have hsaving : ∀ {x u}, Shelf.run (Shelf.saveOrder c) s.shelf = (x, u) →
      Ends (onShelf (Shelf.saveOrder c)) s (fun ids v => x = .ok ids ∧ v = s.withShelf u)
        (fun _ _ => True) := by
    intro x u hx
    unfold Ends
    rw [← run, run_onShelf hx]
    cases x with
    | ok ids => exact ⟨rfl, rfl⟩
    | error f => trivial
  rcases h.saving with ⟨f, t, hsave⟩ | ⟨ids, t, f, u, hsave, hlist⟩
  · have hdiscard : Ends (discard (onShelf (Shelf.saveOrder c))) s (fun _ _ => False)
        (fun _ _ => True) := (hsaving hsave).bind fun _ _ h => by cases h.1
    exact hdiscard.bind fun _ _ h => h.elim
  · have hdiscard : Ends (discard (onShelf (Shelf.saveOrder c))) s
        (fun _ v => v = s.withShelf t) (fun _ _ => True) :=
      (hsaving hsave).bind fun _ _ h => h.2
    refine hdiscard.bind fun _ v hv => ?_
    have hagain : Ends (onShelf Shelf.list) v (fun _ _ => False) (fun _ _ => True) := by
      unfold Ends
      rw [hv, ← run, run_onShelf hlist]
      trivial
    exact hagain.tryCatch fun _ _ _ => trivial

/-- After an order was stored. -/
def orderStored (c : Criterion) (bs : List Bookmark) (s : Session) : Session :=
  { s with snapshot := bs, plan := Plan.withoutOrdering s.plan }.say
    ("Reordered " ++ c.describe ++ " and saved.") .success

/-- What the user is told of an order that was not stored. -/
def orderLostNotice : Message := ⟨"Failed to persist new order.", .error⟩

def orderLost (f : Fault) (s : Session) : Session := (s.record f).emit (.message orderLostNotice)

theorem run_persistOrder (step : Step) (s : Session) :
    run (persistOrder step) s =
      match run (storeOrder (Plan.criterion step s.plan)) s with
      | (.ok bs, t) => (.ok (), orderStored (Plan.criterion step s.plan) bs t)
      | (.error f, t) => (.ok (), orderLost f t) := by
  -- all that can go wrong is a failure of the store, so none is passed on
  have hfault := (ends_iff.mp (ends_storeOrder (Plan.criterion step s.plan) s)).2
  have hassoc : ∀ c, (do
      discard (onShelf (Shelf.saveOrder c))
      let bs ← reload
      modify (withSnapshot bs)
      pure true : Act Bool) = (do
      let bs ← storeOrder c
      modify (withSnapshot bs)
      pure true) := fun c => (bind_assoc _ _ _).symm
  unfold persistOrder
  simp only [run, run_bind, run_get, run_tryCatch, hassoc]
  rcases hr : Act.run (storeOrder (Plan.criterion step s.plan)) s with ⟨x, t⟩
  cases x with
  | ok bs => simp [run_bind, orderStored, withSnapshot]
  | error f =>
    have hf := (hfault f t hr).1
    simp only [hf, Bool.not_true, Bool.false_eq_true, if_false, run_bind, run_modify, run_pure]
    rfl

/-- What a step makes of the plan, and what it leaves alone. -/
structure Stepped (step : Step) (s t : Session) : Prop where
  plan : t.plan = if stores step s then Plan.withoutOrdering s.plan else s.plan
  error : t.error = s.error
  stacking : t.stacking = s.stacking
  events : s.events <+: t.events

theorem stores_of_not_isPersist (h : step.isPersist = false) (s : Session) :
    stores step s = false := by
  simp [stores, h]

theorem stepped_emit (h : step.isPersist = false) (s : Session) (e : Event) :
    Stepped step s (s.emit e) := by
  refine ⟨?_, rfl, rfl, List.prefix_append _ _⟩
  simp [stores_of_not_isPersist h, emit]

theorem stepped_self (h : step.isPersist = false) (s : Session) : Stepped step s s := by
  refine ⟨?_, rfl, rfl, List.prefix_refl _⟩
  simp [stores_of_not_isPersist h]

theorem stepped_stageDuplicates (h : step.isPersist = false) (s : Session) :
    Ends stageDuplicates s (fun _ t => Stepped step s t) (fun _ t => Stepped step s t) := by
  unfold stageDuplicates
  rw [ends_get_bind]
  refine ends_lift_bind (fun ids _ => ?_) fun _ _ => stepped_self h s
  cases ids with
  | nil => exact stepped_emit h s _
  | cons id ids =>
    have hplan := (stepped_self h s).plan
    refine ⟨hplan, rfl, rfl, ?_⟩
    show s.events <+: s.events ++ [_] ++ [_]
    rw [List.append_assoc]
    exact List.prefix_append _ _

theorem stepped_persistOrder (h : step.isPersist = true) (s : Session) :
    Ends (persistOrder step) s (fun _ t => Stepped step s t) (fun _ t => Stepped step s t) := by
  have hstore := ends_iff.mp (ends_storeOrder (Plan.criterion step s.plan) s)
  unfold Ends
  rw [← run, run_persistOrder]
  rcases hr : run (storeOrder (Plan.criterion step s.plan)) s with ⟨x, t⟩
  cases x with
  | ok bs =>
    have hstores : stores step s = true := by simp [stores, h, hr, Except.isOk, Except.toBool]
    have ht : Aside s t := hstore.1 bs t hr
    show Stepped step s (orderStored _ bs t)
    rw [ht]
    exact ⟨by rw [hstores]; rfl, rfl, rfl, List.prefix_append _ _⟩
  | error f =>
    have hstores : stores step s = false := by simp [stores, hr, Except.isOk, Except.toBool]
    have ht : Aside s t := (hstore.2 f t hr).2
    show Stepped step s (orderLost f t)
    rw [ht]
    exact ⟨by rw [hstores]; rfl, rfl, rfl, List.prefix_append _ _⟩

theorem dispatch_of_isPersist (h : step.isPersist = true) :
    dispatch step = persistOrder step := by
  unfold Step.isPersist Step.is at h
  unfold dispatch
  cases hk : step.known with
  | none => simp [hk] at h
  | some a =>
    cases a with
    | reorder | reorderAscending | reorderDescending | persistSortedOrder => rfl
    | _ => simp [hk, Action.savesOrder] at h

theorem stepped_dispatch (step : Step) (s : Session) :
    Ends (dispatch step) s (fun _ t => Stepped step s t) (fun _ t => Stepped step s t) := by
  cases h : step.isPersist with
  | true =>
    rw [dispatch_of_isPersist h]
    exact stepped_persistOrder h s
  | false =>
    unfold dispatch
    cases hk : step.known with
    | none => exact stepped_self h s
    | some a =>
      cases a with
      | help | importBookmarks | exportBookmarks => exact stepped_emit h s _
      | removeDuplicates => exact stepped_stageDuplicates h s
      | reorder | reorderAscending | reorderDescending | persistSortedOrder =>
        simp [Step.isPersist, Step.is, hk, Action.savesOrder] at h
      | _ => exact stepped_self h s

section Seeing

open LinkShelf.Shelf (Kept Committed Orderly contents numbered)

/-- The same bookmarks are on the shelf, whatever their order, and what is seen is what was seen
before or what is there. -/
structure Sees (s t : Session) : Prop extends Keeps s t where
  seen : t.snapshot = s.snapshot ∨ (contents t.snapshot).Perm (contents t.shelf.items)

theorem Sees.trans (h : Sees s t) (h' : Sees t u) : Sees s u := by
  refine ⟨h.toKeeps.trans h'.toKeeps, ?_⟩
  rcases h'.seen with hu | hu
  · rw [hu]
    exact h.seen.imp_right fun ht => ht.trans h'.same.symm
  · exact .inr hu

theorem Sane.sees (hs : Sane s) (hshelf : t.shelf = s.shelf) (hsnapshot : t.snapshot = s.snapshot) :
    Sees s t := by
  refine ⟨⟨⟨?_, ?_⟩, ?_⟩, .inl hsnapshot⟩
  · rw [hshelf]
    exact hs.shelf
  · rw [hsnapshot]
    exact hs.snapshot
  · rw [hshelf]

theorem sees_kept {w : Shelf} (hs : Sane s) (h : Kept s.shelf w) : Sees s (s.withShelf w) := by
  refine ⟨(hs.kept h).keeps, .inl ?_⟩
  show (lastHeard (w.notices.drop s.shelf.notices.length)).getD s.snapshot = s.snapshot
  simp [h.notices, lastHeard]

theorem sees_committed {w : Shelf} (hs : Sane s) (h : Committed bs s.shelf w) (hw : Orderly w)
    (hsame : bs.Perm s.shelf.items) : Sees s (s.withShelf w) := by
  refine ⟨⟨hs.withShelf hw, ?_⟩, ?_⟩
  · show (contents w.items).Perm _
    rw [h.items, Shelf.contents_numbered]
    exact hsame.map _
  · have hsnapshot : (s.withShelf w).snapshot =
        (lastHeard (w.notices.drop s.shelf.notices.length)).getD s.snapshot := rfl
    rw [hsnapshot, h.notices, List.drop_left]
    cases hlast : lastHeard (s.shelf.listeners.map fun l => ⟨l, numbered bs⟩) with
    | none => exact .inl rfl
    | some cs =>
      obtain ⟨n, hn, rfl⟩ := mem_of_lastHeard hlast
      obtain ⟨l, -, rfl⟩ := List.mem_map.mp hn
      refine .inr ?_
      rw [← h.items]
      exact .refl _

theorem sees_storeOrder (hs : Sane s) (c : Criterion) : Ends (storeOrder c) s
    (fun bs t => Sees s t ∧ bs = t.shelf.items) (fun _ t => Sees s t) := by
  have hsave : Ends (discard (onShelf (Shelf.saveOrder c))) s (fun _ t => Sees s t)
      (fun _ t => Sees s t) := by
    refine Ends.discard ((ends_onShelf (Shelf.ends_saveOrder hs.shelf c)).mono ?_ ?_)
    · rintro order _ ⟨w, rfl, hw⟩
      have horderly := (hw.reordered hs.shelf).orderly hs.shelf (Shelf.unused_nil _ _)
      exact sees_committed hs hw.toCommitted horderly
        (Shelf.arranged_perm hs.shelf.sound.toNamed order)
    · rintro f _ ⟨w, rfl, hw⟩
      exact sees_kept hs hw
  refine hsave.bind fun _ t ht => ?_
  have hlist : Ends (onShelf Shelf.list) t (fun bs u => Sees s u ∧ bs = u.shelf.items)
      (fun _ u => Sees s u) := by
    refine (ends_onShelf (Shelf.ends_list t.shelf)).mono ?_ ?_
    · rintro _ _ ⟨w, rfl, rfl, hw⟩
      exact ⟨ht.trans (sees_kept ht.sane hw), hw.items.symm⟩
    · rintro f _ ⟨w, rfl, hw⟩
      exact ht.trans (sees_kept ht.sane hw)
  refine hlist.tryCatch fun f u hu => ?_
  rw [ends_get_bind, ends_throw]
  exact hu

theorem sees_persistOrder (hs : Sane s) (step : Step) :
    Ends (persistOrder step) s (fun _ t => Sees s t) (fun _ _ => False) := by
  have hstore := ends_iff.mp (sees_storeOrder hs (Plan.criterion step s.plan))
  unfold Ends
  rw [← run, run_persistOrder]
  rcases hr : run (storeOrder (Plan.criterion step s.plan)) s with ⟨x, t⟩
  cases x with
  | ok bs =>
    obtain ⟨ht, rfl⟩ := hstore.1 bs t hr
    exact ⟨⟨⟨ht.sane.shelf, ht.sane.shelf.sound.toNamed⟩, ht.same⟩, .inr (.refl _)⟩
  | error f =>
    have ht := hstore.2 f t hr
    exact ht.trans (ht.sane.sees rfl rfl)

/-- Whatever a step does, the session sees what it saw before, or what is on the shelf. -/
theorem sees_dispatch (hs : Sane s) (step : Step) :
    Ends (dispatch step) s (fun _ t => Sees s t) (fun _ t => Sees s t) := by
  have hself : ∀ {t}, t.shelf = s.shelf → t.snapshot = s.snapshot → Sees s t := hs.sees
  unfold dispatch
  cases step.known with
  | none => exact hself rfl rfl
  | some a =>
    cases a with
    | help | importBookmarks | exportBookmarks => exact hself rfl rfl
    | removeDuplicates =>
      unfold stageDuplicates
      rw [ends_get_bind]
      refine ends_lift_bind (fun ids _ => ?_) fun _ _ => hself rfl rfl
      cases ids with
      | nil => exact hself rfl rfl
      | cons id ids => exact hself rfl rfl
    | reorder | reorderAscending | reorderDescending | persistSortedOrder =>
      exact (sees_persistOrder hs step).mono (fun _ _ h => h) fun _ _ h => h.elim
    | _ => exact hself rfl rfl

end Seeing

section Replies

theorem extendPlan_eq (s : Session) (steps : Plan) :
    s.extendPlan steps = s.replacePlan (s.extendPlan steps).plan := by
  unfold extendPlan
  split
  · rfl
  · rfl

/-- After a request that failed. -/
def failed (query : String) (f : Fault) (s : Session) : Session :=
  ((s.record f).fallBack query f.message).say (Report.ofFault f).userMessage .error

theorem run_fail (query : String) (f : Fault) (s : Session) :
    run (fail query f) s =
      (.ok { (failed query f s).outcome query with
        steps := (failed query f s).plan
        messages := [⟨(Report.ofFault f).userMessage, .error⟩]
        error := some (Report.ofFault f) }, failed query f s) := rfl

theorem run_apply (query : String) (steps : Plan) (s : Session) :
    run (apply query steps) s =
      match run (steps.forM dispatch) (s.extendPlan steps) with
      | (.ok _, t) => (.ok { t.outcome query with
          steps, messages := (t.events.drop s.events.length).filterMap Event.message? }, t)
      | (.error f, t) => (.error f, t) := by
  unfold apply
  simp only [run, run_bind, run_get, run_modify]
  rcases Act.run (steps.forM dispatch) (s.extendPlan steps) with ⟨x, t⟩
  cases x with
  | ok _ => rfl
  | error f => rfl

end Replies

end Session

end LinkShelf

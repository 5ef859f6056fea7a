import LinkShelf.Proofs.Agent.Course
import LinkShelf.Proofs.Agent.Overtaking
import LinkShelf.Proofs.Agent.Storing
import LinkShelf.Proofs.Store.Unhindered
/-!
What the removal of duplicates comes to. While the session has seen the bookmarks that are on its
shelf, a request stages such as are there, whatever its plan makes of them before. Once they are
confirmed, all of them are gone, the others are as they were, and no title and address is lost.
-/
namespace LinkShelf.Session

open LinkShelf.Act
open LinkShelf.Bookmark (Reflects Occurs reflects_of_same occurs_remaining occurs_numbered)
open LinkShelf.Shelf (contents ids numbered hasId Named Orderly Kept Stored Removes Unhindered)

variable {s t u : Session} {v w : List Bookmark} {step : Step} {steps : Plan} {query : String}
  {reply : Except Fault String}

section Tracking

/-- What is pending are the duplicates of a view, and whatever was in the view is on the shelf. -/
structure Chosen (v : List Bookmark) (s : Session) : Prop where
  duplicates : Bookmark.duplicates v = .ok s.pending
  named : Named v
  there : Reflects v s.shelf.items

/-- The session has seen the bookmarks that are on its shelf, whatever their order, and what is
pending was chosen from such. -/
structure Tracked (v : List Bookmark) (s : Session) : Prop extends Sane s where
  current : (contents s.snapshot).Perm (contents s.shelf.items)
  chosen : s.pending = [] ∨ Chosen v s

theorem Chosen.later (h : Chosen v s) (hpending : t.pending = s.pending)
    (hsame : (contents t.shelf.items).Perm (contents s.shelf.items)) : Chosen v t := by
  refine ⟨?_, h.named, h.there.trans (reflects_of_same hsame.symm)⟩
  rw [hpending]
  exact h.duplicates

theorem Sees.current (h : Sees s t)
    (hs : (contents s.snapshot).Perm (contents s.shelf.items)) :
    (contents t.snapshot).Perm (contents t.shelf.items) := by
  rcases h.seen with hseen | hseen
  · rw [hseen]
    exact hs.trans h.same.symm
  · exact hseen

theorem Tracked.same (h : Tracked v s) (hshelf : t.shelf = s.shelf)
    (hsnapshot : t.snapshot = s.snapshot) (hpending : t.pending = s.pending) : Tracked v t := by
  have hsees := h.toSane.sees hshelf hsnapshot
  refine ⟨hsees.sane, hsees.current h.current, h.chosen.imp (fun hnone => ?_) fun hchosen => ?_⟩
  · rw [hpending, hnone]
  · exact hchosen.later hpending hsees.same

theorem reflects_view (s : Session) : Reflects s.view s.snapshot := by
  intro b hb
  obtain ⟨c, hc, rfl⟩ := List.mem_map.mp hb
  exact ⟨c, (Plan.run_subperm _ s.snapshot).subset hc, rfl, rfl⟩

/-- What one step preserves: if it stages anything, then from the view as it is at that step. -/
theorem Tracked.dispatched (h : Tracked v s) {r : Except Fault Unit}
    (hrun : run (dispatch step) s = (r, t)) : Tracked (viewAfter v step s) t := by
  have hsees := (sees_dispatch h.toSane step).state hrun
  have hpending := ((ends_dispatch h.toSane step).state hrun).pending
  refine ⟨hsees.sane, hsees.current h.current, ?_⟩
  unfold viewAfter
  cases hids : staging step s with
  | none =>
    rw [hids, Option.getD_none] at hpending
    exact h.chosen.imp (fun hnone => hpending.trans hnone) fun hchosen =>
      hchosen.later hpending hsees.same
  | some ids =>
    rw [hids, Option.getD_some] at hpending
    have hseen := reflects_of_same h.current
    have hkept := reflects_of_same hsees.same.symm
    refine .inr ⟨?_, h.toSane.view, (reflects_view s).trans (hseen.trans hkept)⟩
    rw [hpending]
    exact staging_some hids

/-- What all steps of a reply preserve, or as many of them as go through. -/
theorem Tracked.carried (h : Tracked v s) {r : Except Fault PUnit}
    (hrun : run (steps.forM dispatch) s = (r, t)) : Tracked (viewAfterAll v s steps) t := by
  induction steps generalizing s v with
  | nil =>
    obtain ⟨-, rfl⟩ := Prod.mk.inj ((run_forM_nil s).symm.trans hrun)
    exact h
  | cons step steps ih =>
    rw [run_forM_cons] at hrun
    rcases hstep : run (dispatch step) s with ⟨x, u⟩
    have hu := h.dispatched hstep
    rw [hstep] at hrun
    unfold viewAfterAll
    rw [hstep]
    cases x with
    | ok _ => exact ih hu hrun
    | error f =>
      obtain ⟨-, rfl⟩ := Prod.mk.inj hrun
      exact hu

theorem Tracked.settled (h : Tracked v s) {r : Except Fault Outcome}
    (hrun : run (settle query reply) s = (r, t)) : Tracked (viewAfterReply v s reply) t := by
  unfold settle at hrun
  unfold viewAfterReply
  cases hr : stepsOfReply reply with
  | error f =>
    rw [hr] at hrun
    obtain ⟨-, rfl⟩ := Prod.mk.inj ((run_fail query f s).symm.trans hrun)
    exact h.same rfl rfl rfl
  | ok steps =>
    rw [hr] at hrun
    have hextended : Tracked v (s.extendPlan steps) := by
      rw [extendPlan_eq]
      exact h.same rfl rfl rfl
    have happly := (run_apply query steps s).symm.trans hrun
    rcases hsteps : run (steps.forM dispatch) (s.extendPlan steps) with ⟨x, u⟩
    rw [hsteps] at happly
    have hu := hextended.carried hsteps
    cases x with
    | ok _ | error _ =>
      obtain ⟨-, rfl⟩ := Prod.mk.inj happly
      exact hu

theorem tracked_finish (h : Tracked v s) (number : Nat) :
    Ends (finish number query reply) s
      (fun _ t => Tracked ((Move.answer number query reply).viewAfter v s) t)
      (fun _ t => Tracked ((Move.answer number query reply).viewAfter v s) t) := by
  rw [ends_state]
  by_cases hn : s.request = number
  · have hview : (Move.answer number query reply).viewAfter v s = viewAfterReply v s reply :=
      if_pos hn
    rw [hview, ← run, run_finish_newest hn]
    exact h.settled rfl
  · have hview : (Move.answer number query reply).viewAfter v s = v := if_neg hn
    rw [hview, ← run, run_finish_stale hn]
    exact h

theorem tracked_submit (h : Tracked v (s.begin query).2) (hb : Text.blank query = false) :
    Ends (submit query reply) s
      (fun _ t => Tracked ((Move.submit query reply).viewAfter v s) t)
      (fun _ t => Tracked ((Move.submit query reply).viewAfter v s) t) := by
  have hview : (Move.submit query reply).viewAfter v s =
      viewAfterReply v (s.begin query).2 reply := if_neg (by simp [hb])
  rw [ends_state, hview, ← run, run_submit_filled hb]
  exact h.settled rfl

/-- A request that is not blank, or the answer to one since which nothing was staged. -/
def Move.Asks (s : Session) : Move → Prop
  | .submit query _ => Text.blank query = false
  | .answer .. => s.pending = []
  | _ => False

theorem tracked_move {m : Move} (hs : Sane s) (hseen : s.snapshot = s.shelf.items)
    (hm : m.Asks s) : Ends m.act s (fun _ t => Tracked (m.viewAfter v s) t)
      (fun _ t => Tracked (m.viewAfter v s) t) := by
  have hcurrent : (contents s.snapshot).Perm (contents s.shelf.items) := by rw [hseen]
  cases m with
  | submit query reply =>
    have hb : Text.blank query = false := hm
    have hbegin : Tracked v (s.begin query).2 := by
      rw [begin_filled hb]
      exact ⟨⟨hs.shelf, hs.snapshot⟩, hcurrent, .inl rfl⟩
    exact (tracked_submit hbegin hb).bind fun _ _ h => h
  | answer number query reply =>
    have hnone : s.pending = [] := hm
    exact (tracked_finish ⟨hs, hcurrent, .inl hnone⟩ number).bind fun _ _ h => h
  | _ => exact hm.elim

end Tracking

section Confirming

/-- Nothing but what was pending has gone, and all of that has. -/
def Cleared (s t : Session) : Prop :=
  ∃ w, Removes s.pending s.pending [] s.shelf w ∧ Kept w t.shelf

theorem ends_deletePending_unhindered (hs : Orderly s.shelf) (h : Unhindered s.pending s.shelf) :
    Ends (deletePending s.pending) s (fun n t => n = s.pending.length ∧ Cleared s t)
      (fun _ _ => False) := by
  unfold deletePending
  refine ((ends_onShelf (h.removes hs)).mono (fun _ _ h => h) ?_).bind ?_
  · rintro _ _ ⟨_, _, hfalse⟩
    exact hfalse
  rintro r _ ⟨w, rfl, hcount, hremoves, hlist⟩
  refine ((ends_onShelf (hlist.and (Shelf.ends_list w))).mono (fun _ _ h => h) ?_).bind ?_
  · rintro _ _ ⟨_, _, hfalse, _⟩
    exact hfalse
  rintro bs _ ⟨x, rfl, -, -, hkept⟩
  rw [ends_modify_bind, ends_modify_bind, ends_modify_bind, ends_pure]
  exact ⟨hcount, w, hremoves, hkept⟩

/-- If no call fails, all that is pending is removed, and as many are counted. -/
theorem ends_confirm_unhindered (hs : Orderly s.shelf) (hsome : s.pending ≠ [])
    (h : Unhindered s.pending s.shelf) :
    Ends confirm s (fun n t => n = s.pending.length ∧ Cleared s t) (fun _ _ => False) := by
  have hempty : s.pending.isEmpty = false := by simpa using hsome
  unfold confirm
  rw [ends_get_bind]
  simp only [hempty, Bool.false_eq_true, if_false]
  exact (ends_deletePending_unhindered hs h).tryCatch fun _ _ hfalse => hfalse.elim

/-- The shelf is what it was without the duplicates of a view. Every title and address is still
there, and what is left of the view has each of them once. -/
structure Deduplicated (view : List Bookmark) (s t : Session) : Prop where
  staged : Bookmark.duplicates view = .ok s.pending
  nodup : s.pending.Nodup
  there : ∀ id ∈ s.pending, some id ∈ ids s.shelf.items
  items : t.shelf.items = numbered (s.shelf.items.filter fun b => !s.pending.any (hasId · b))
  stored : Stored t.shelf
  keys : ∀ key, Occurs key t.shelf.items ↔ Occurs key s.shelf.items
  distinct : ((view.filter fun b => !s.pending.any (hasId · b)).map Bookmark.duplicateKey).Nodup

theorem Cleared.deduplicated (hs : Orderly s.shelf) (hsome : s.pending ≠ []) (hv : Chosen v s)
    (h : Cleared s t) : Deduplicated v s t := by
  obtain ⟨w, hremoves, hkept⟩ := h
  have hitems := hkept.items.trans (hremoves.items hs)
  refine ⟨hv.duplicates, Bookmark.duplicates_nodup hv.named hv.duplicates,
    hv.there.there hv.duplicates, hitems, hkept.stored (hremoves.stored hsome), fun key => ?_,
    Bookmark.duplicates_distinct hv.named hv.duplicates⟩
  rw [hitems, occurs_numbered]
  exact occurs_remaining hv.named hv.duplicates hv.there hs.sound.toNamed

end Confirming

/-- A request is made while what is seen is what is on the shelf, and it stages something. If this
is confirmed later, with the same bookmarks on the shelf, in whatever order, and no call fails, then
all that was staged is removed and counted, and nothing else has changed but the places. No title
and address is lost, and in the view from which was staged none is left twice. -/
theorem duplicates_removed_exactly {m : Move} {r : Except Fault Unit} (h : Course v s)
    (hseen : s.snapshot = s.shelf.items) (hm : m.Asks s) (hrun : run m.act s = (r, t))
    (hsome : t.pending ≠ []) (hlater : Course w u) (hpending : u.pending = t.pending)
    (hsame : (contents u.shelf.items).Perm (contents t.shelf.items))
    (hcalls : Unhindered u.pending u.shelf) :
    Ends confirm u
      (fun n x => n = t.pending.length ∧ Deduplicated (m.viewAfter v s) u x)
      (fun _ _ => False) := by
  have htracked : Tracked (m.viewAfter v s) t := (tracked_move h.sane.1 hseen hm).state hrun
  have hchosen := (htracked.chosen.resolve_left hsome).later hpending hsame
  have hshelf := hlater.sane.1.shelf
  rw [← hpending] at hsome ⊢
  exact (ends_confirm_unhindered hshelf hsome hcalls).mono
    (fun _ _ h => ⟨h.1, h.2.deduplicated hshelf hsome hchosen⟩) fun _ _ h => h

/-- A refresh that goes through shows the shelf as it is. -/
theorem ends_refresh_current (s : Session) :
    Ends refresh s (fun _ t => t.snapshot = t.shelf.items) (fun _ _ => True) := by
  unfold refresh
  refine ((ends_onShelf (Shelf.ends_list s.shelf)).mono (fun _ _ h => h) fun _ _ _ => trivial).bind
    ?_
  rintro _ _ ⟨w, rfl, rfl, hw⟩
  rw [ends_modify_bind, ends_get_bind, ends_pure]
  exact hw.items.symm

section Twins

theorem twinSeen_current : twinSeen.snapshot = twinSeen.shelf.items := by
  have hrefresh : Ends Move.refresh.act { shelf := twinShelf }
      (fun _ t => t.snapshot = t.shelf.items) (fun _ _ => True) :=
    (ends_refresh_current _).bind fun _ _ h => h
  have hok : (run Move.refresh.act { shelf := twinShelf }).1.isOk = true := by decide +kernel
  unfold twinSeen
  rcases hr : run Move.refresh.act { shelf := twinShelf } with ⟨x, t⟩
  cases x with
  | ok _ => exact (ends_iff.mp hrefresh).1 _ t hr
  | error f =>
    rw [hr] at hok
    cases hok

theorem twinStaged_unhindered : Unhindered twinStaged.pending twinStaged.shelf := by
  have hnone : ∀ c ∈ [Call.load, .list, .fetch, .create, .update, .remove, .removeAll, .replaceAll,
      .reorder, .saveSorted, .save, .makeFolders, .writeDraft, .moveDraft],
      (twinStaged.shelf.outages c).isEmpty = true := by decide +kernel
  refine Shelf.unhindered_quiet twinStaged_course.sane.1.shelf ⟨twinStaged_memory, fun c f => ?_⟩
    (by decide +kernel) (by decide +kernel)
  rw [List.isEmpty_iff.mp (hnone c (by cases c <;> decide))]
  exact List.not_mem_nil

theorem twins_removed_exactly : twinStaged.pending = ["b"] ∧
    Ends confirm twinStaged
      (fun n t => n = twinStaged.pending.length ∧
        Deduplicated ((Move.submit "twice" twinReply).viewAfter [] twinSeen) twinStaged t)
      (fun _ _ => False) := by
  have hpending : twinStaged.pending = ["b"] := by decide +kernel
  have hrun : run (Move.submit "twice" twinReply).act twinSeen =
      ((run (Move.submit "twice" twinReply).act twinSeen).1, twinStaged) := by
    unfold twinStaged
    rfl
  have hblank : Text.blank "twice" = false := by decide
  exact ⟨hpending, duplicates_removed_exactly twinSeen_course twinSeen_current hblank hrun
    (by simp [hpending]) twinStaged_course rfl (.refl _) twinStaged_unhindered⟩

end Twins

end LinkShelf.Session

import LinkShelf.Agent.Deletion
import LinkShelf.Agent.Query
import LinkShelf.Proofs.Bookmark.Duplicates
import LinkShelf.Proofs.Plan.Selection
import LinkShelf.Proofs.Store.Reach
/-!
What the agent does to its shelf. The steps of a plan bring nothing in and take nothing away; they
stage duplicates at most, and only those in front of which there is one that stays.
-/
namespace LinkShelf.Session

open LinkShelf.Act
open LinkShelf.Shelf (contents Named Orderly Sound numbered hasId)

variable {s t : Session} {u : Shelf} {α : Type} {step : Step} {steps : Plan}
  {v : List Bookmark}

/-- A session in order: so is its shelf, and in what it has seen of it ids are distinct. -/
structure Sane (s : Session) : Prop where
  shelf : Orderly s.shelf
  snapshot : Named s.snapshot

theorem Sane.withSnapshot {bs : List Bookmark} (hs : Sane s) (hbs : Named bs) :
    Sane (s.withSnapshot bs) := ⟨hs.shelf, hbs⟩

theorem mem_of_lastHeard {notices : List Notice} {bs : List Bookmark}
    (h : lastHeard notices = some bs) : ∃ n ∈ notices, n.collection = bs := by
  unfold lastHeard at h
  obtain ⟨n, hn, hbs⟩ := Option.map_eq_some_iff.mp h
  exact ⟨n, (List.mem_filter.mp (List.mem_of_getLast? hn)).1, hbs⟩

theorem Sane.withShelf (hs : Sane s) (hu : Orderly u) : Sane (s.withShelf u) := by
  refine ⟨hu, ?_⟩
  show Named ((lastHeard (u.notices.drop s.shelf.notices.length)).getD s.snapshot)
  cases h : lastHeard (u.notices.drop s.shelf.notices.length) with
  | none => exact hs.snapshot
  | some bs =>
    obtain ⟨n, hn, rfl⟩ := mem_of_lastHeard h
    exact (hu.heard n (List.mem_of_mem_drop hn)).toNamed

theorem ends_onShelf {act : Shelf.Act α} {ok : α → Shelf → Prop} {bad : Fault → Shelf → Prop}
    (h : Ends act s.shelf ok bad) : Ends (onShelf act) s
      (fun a t => ∃ u, t = s.withShelf u ∧ ok a u)
      (fun e t => ∃ u, t = s.withShelf u ∧ bad e u) := by
  unfold onShelf
  rw [ends_get_bind]
  unfold Ends at h ⊢
  rcases hr : Shelf.run act s.shelf with ⟨r, u⟩
  rw [← Shelf.run, hr] at h
  cases r with
  | ok a => exact ⟨u, rfl, h⟩
  | error e => exact ⟨u, rfl, h⟩

theorem Sane.view (hs : Sane s) : Named s.view := by
  have hrun := hs.snapshot.of_subperm (Plan.run_subperm (Plan.arrange s.plan) s.snapshot)
  refine hrun.change shown (fun _ => rfl) fun b hb => ?_
  rw [Bookmark.formed_iff] at hb ⊢
  exact hb

/-- The same bookmarks are on the shelf, whatever their order. -/
structure Keeps (s t : Session) : Prop where
  sane : Sane t
  same : (contents t.shelf.items).Perm (contents s.shelf.items)

theorem Sane.keeps (hs : Sane s) : Keeps s s := ⟨hs, .refl _⟩

theorem Keeps.trans {w : Session} (h : Keeps s t) (h' : Keeps t w) : Keeps s w :=
  ⟨h'.sane, h'.same.trans h.same⟩

/-- Nothing on the shelf has changed, and what is pending is what was. -/
structure Rests (s t : Session) : Prop where
  sane : Sane t
  items : t.shelf.items = s.shelf.items
  pending : t.pending = s.pending

theorem Rests.keeps (h : Rests s t) : Keeps s t := ⟨h.sane, by rw [h.items]⟩

theorem Sane.rests (hs : Sane s) : Rests s s := ⟨hs, rfl, rfl⟩

theorem Sane.kept (hs : Sane s) (h : Shelf.Kept s.shelf u) : Rests s (s.withShelf u) :=
  ⟨hs.withShelf (h.orderly hs.shelf), h.items, rfl⟩

section Steps

def staging (step : Step) (s : Session) : Option (List String) :=
  if step.known = some .removeDuplicates then
    match Bookmark.duplicates s.view with
    | .ok (id :: ids) => some (id :: ids)
    | _ => none
  else none

/-- A step has been carried out, or it has been tried. -/
structure Dispatched (step : Step) (s t : Session) : Prop extends Keeps s t where
  still : step.isPersist = false → t.shelf.items = s.shelf.items
  pending : t.pending = (staging step s).getD s.pending

theorem Rests.dispatched (h : Rests s t) (hstep : staging step s = none) :
    Dispatched step s t :=
  ⟨h.keeps, fun _ => h.items, by rw [h.pending, hstep, Option.getD_none]⟩

theorem ends_stageDuplicates (hs : Sane s) (hstep : step.known = some .removeDuplicates) :
    Ends stageDuplicates s (fun _ t => Dispatched step s t) (fun _ t => Dispatched step s t) := by
  unfold stageDuplicates
  rw [ends_get_bind]
  refine ends_lift_bind (fun ids hids => ?_) fun e he => ?_
  · cases ids with
    | nil =>
      have hnone : staging step s = none := by
        rw [staging, if_pos hstep, hids]
      exact Rests.dispatched ⟨⟨hs.shelf, hs.snapshot⟩, rfl, rfl⟩ hnone
    | cons id ids =>
      have hsome : staging step s = some (id :: ids) := by
        rw [staging, if_pos hstep, hids]
      refine ⟨⟨⟨hs.shelf, hs.snapshot⟩, .refl _⟩, fun _ => rfl, ?_⟩
      rw [hsome]
      rfl
  · have hnone : staging step s = none := by
      rw [staging, if_pos hstep, he]
    exact hs.rests.dispatched hnone

theorem ends_saveOrder (hs : Sane s) (c : Criterion) : Ends (onShelf (Shelf.saveOrder c)) s
    (fun _ t => Keeps s t ∧ t.pending = s.pending) (fun _ t => Rests s t) := by
  refine (ends_onShelf (Shelf.ends_saveOrder hs.shelf c)).mono ?_ ?_
  · intro order t ht
    obtain ⟨u, rfl, hc⟩ := ht
    have hdone := hc.reordered hs.shelf
    have horderly := hdone.orderly hs.shelf (Shelf.unused_nil _ _)
    refine ⟨⟨hs.withShelf horderly, ?_⟩, rfl⟩
    have hitems : u.items = numbered (Shelf.arranged order s.shelf.items) := hc.items
    show (contents u.items).Perm _
    rw [hitems, Shelf.contents_numbered]
    exact (Shelf.arranged_perm hs.shelf.sound.toNamed order).map _
  · intro e t ht
    obtain ⟨u, rfl, hk⟩ := ht
    exact hs.kept hk

theorem ends_list (hs : Sane s) : Ends (onShelf Shelf.list) s
    (fun bs t => Named bs ∧ Rests s t) (fun _ t => Rests s t) := by
  refine (ends_onShelf (Shelf.ends_list s.shelf)).mono ?_ ?_
  · intro bs t ht
    obtain ⟨u, rfl, rfl, hk⟩ := ht
    exact ⟨hs.shelf.sound.toNamed, hs.kept hk⟩
  · intro e t ht
    obtain ⟨u, rfl, hk⟩ := ht
    exact hs.kept hk

/-- What holds after an order was stored, or after that was tried. -/
def Ordered (s t : Session) : Prop := Keeps s t ∧ t.pending = s.pending

theorem Rests.ordered (h : Rests s t) : Ordered s t := ⟨h.keeps, h.pending⟩

theorem Ordered.rests {w : Session} (h : Ordered s t) (h' : Rests t w) : Ordered s w :=
  ⟨h.1.trans h'.keeps, h'.pending.trans h.2⟩

theorem ends_reload (hs : Sane s) : Ends reload s (fun bs t => Named bs ∧ Rests s t)
    (fun _ t => Rests s t) := by
  refine (ends_list hs).tryCatch fun f t ht => ?_
  rw [ends_get_bind, ends_throw]
  exact ht

theorem ends_persistOrder (hs : Sane s) (step : Step) :
    Ends (persistOrder step) s (fun _ t => Ordered s t) (fun _ t => Ordered s t) := by
  unfold persistOrder
  rw [ends_get_bind]
  have hstore : ∀ c, Ends (do
      discard (onShelf (Shelf.saveOrder c))
      let bs ← reload
      modify (withSnapshot bs)
      pure true : Act Bool) s (fun _ t => Ordered s t) (fun _ t => Ordered s t) := by
    intro c
    have hsave : Ends (discard (onShelf (Shelf.saveOrder c))) s (fun _ t => Ordered s t)
        (fun _ t => Ordered s t) :=
      ((ends_saveOrder hs c).mono (fun _ _ h => h) fun _ _ h => h.ordered).discard
    refine hsave.bind fun _ t ht => ?_
    refine ((ends_reload ht.1.sane).mono (fun _ _ h => h) fun _ _ h => ht.rests h).bind ?_
    intro bs w hw
    rw [ends_modify_bind, ends_pure]
    exact ht.rests ⟨hw.2.sane.withSnapshot hw.1, hw.2.items, hw.2.pending⟩
  refine Ends.bind ((hstore _).tryCatch fun f t ht => ?_) fun saved t ht => ?_
  · have hreport : Ends (do
        modify (record f)
        modify (say "Failed to persist new order." .error)
        pure false : Act Bool) t (fun _ t => Ordered s t) (fun _ t => Ordered s t) := by
      rw [ends_modify_bind, ends_modify_bind, ends_pure]
      exact ht.rests ⟨⟨ht.1.sane.shelf, ht.1.sane.snapshot⟩, rfl, rfl⟩
    cases hf : f.isStore with
    | true => simpa [hf] using hreport
    | false => simpa [hf] using ht
  · cases saved with
    | true =>
      simp only [if_true]
      rw [ends_modify_bind, ends_modify]
      exact ht.rests ⟨⟨ht.1.sane.shelf, ht.1.sane.snapshot⟩, rfl, rfl⟩
    | false => exact ht

theorem Ordered.dispatched (h : Ordered s t) (hp : step.isPersist = true)
    (hstep : staging step s = none) : Dispatched step s t :=
  ⟨h.1, fun hn => by simp [hp] at hn, by rw [h.2, hstep, Option.getD_none]⟩

theorem ends_dispatch (hs : Sane s) (step : Step) :
    Ends (dispatch step) s (fun _ t => Dispatched step s t) (fun _ t => Dispatched step s t) := by
  have hquiet : step.known ≠ some .removeDuplicates → staging step s = none := fun h => if_neg h
  have hemit : ∀ e : Event, step.known ≠ some .removeDuplicates →
      Dispatched step s (s.emit e) := fun e h =>
    Rests.dispatched ⟨⟨hs.shelf, hs.snapshot⟩, rfl, rfl⟩ (hquiet h)
  unfold dispatch
  cases hk : step.known with
  | none => exact hs.rests.dispatched (hquiet (by simp [hk]))
  | some a =>
    cases a with
    | help | importBookmarks | exportBookmarks => exact hemit _ (by simp [hk])
    | removeDuplicates => exact ends_stageDuplicates hs hk
    | reorder | reorderAscending | reorderDescending | persistSortedOrder =>
      have hp : step.isPersist = true := by simp [Step.isPersist, Step.is, hk, Action.savesOrder]
      have hn := hquiet (by simp [hk])
      exact (ends_persistOrder hs step).mono (fun _ _ h => h.dispatched hp hn) fun _ _ h =>
        h.dispatched hp hn
    | _ => exact hs.rests.dispatched (hquiet (by simp [hk]))

end Steps

section Plans

/-- Each staged bookmark comes after one that stays, in the view from which it was staged. -/
def Staged (v : List Bookmark) (s : Session) : Prop :=
  ∀ id ∈ s.pending, Bookmark.Preceded s.pending v id

/-- The view from which is staged what is pending, after a step. -/
def viewAfter (v : List Bookmark) (step : Step) (s : Session) : List Bookmark :=
  if (staging step s).isSome then s.view else v

/-- The view from which is staged what is pending, after some steps in turn. -/
def viewAfterAll (v : List Bookmark) (s : Session) : Plan → List Bookmark
  | [] => v
  | step :: steps =>
    match run (dispatch step) s with
    | (.ok _, t) => viewAfterAll (viewAfter v step s) t steps
    | (.error _, _) => viewAfter v step s

theorem staging_some {ids : List String} (h : staging step s = some ids) :
    Bookmark.duplicates s.view = .ok ids := by
  unfold staging at h
  split at h
  · split at h
    · rename_i hids
      rw [hids, Option.some.inj h]
    · cases h
  · cases h

theorem Dispatched.staged (hs : Sane s) (hv : Staged v s) (h : Dispatched step s t) :
    Staged (viewAfter v step s) t := by
  intro id hid
  have hp := h.pending
  unfold viewAfter
  cases hids : staging step s with
  | none =>
    rw [hids, Option.getD_none] at hp
    rw [hp] at hid ⊢
    exact hv id hid
  | some ids =>
    rw [hids, Option.getD_some] at hp
    rw [hp] at hid ⊢
    exact Bookmark.duplicates_preceded hs.view (staging_some hids) hid

/-- The steps of a plan have been carried out, or as many of them as went through. -/
structure Carried (steps : Plan) (v : List Bookmark) (s t : Session) : Prop
    extends Keeps s t where
  still : steps.any Step.isPersist = false → t.shelf.items = s.shelf.items
  staged : Staged (viewAfterAll v s steps) t

theorem run_forM_nil (s : Session) : run (([] : Plan).forM dispatch) s = (.ok (), s) := rfl

theorem run_forM_cons (step : Step) (steps : Plan) (s : Session) :
    run ((step :: steps).forM dispatch) s =
      match run (dispatch step) s with
      | (.ok _, t) => run (steps.forM dispatch) t
      | (.error f, t) => (.error f, t) := by
  have hbind := run_bind (dispatch step) (fun _ => steps.forM dispatch) s
  rcases hstep : LinkShelf.Act.run (dispatch step) s with ⟨x, t⟩
  rw [hstep] at hbind
  rw [run, run, hstep]
  cases x with
  | ok _ => exact hbind
  | error f => exact hbind

theorem run_forM_dispatch (steps : Plan) (hs : Sane s) (hv : Staged v s)
    {r : Except Fault PUnit} (hrun : run (steps.forM dispatch) s = (r, t)) :
    Carried steps v s t := by
  induction steps generalizing s v with
  | nil =>
    obtain ⟨-, rfl⟩ := Prod.mk.inj ((run_forM_nil s).symm.trans hrun)
    exact ⟨hs.keeps, fun _ => rfl, hv⟩
  | cons step steps ih =>
    rw [run_forM_cons] at hrun
    rcases hstep : run (dispatch step) s with ⟨x, u⟩
    have hd := (ends_dispatch hs step).state hstep
    have hu := hd.staged hs hv
    rw [hstep] at hrun
    cases x with
    | error e =>
      obtain ⟨-, rfl⟩ := Prod.mk.inj hrun
      refine ⟨hd.toKeeps, fun h => ?_, ?_⟩
      · rw [List.any_cons, Bool.or_eq_false_iff] at h
        exact hd.still h.1
      · simp only [viewAfterAll, hstep]
        exact hu
    | ok a =>
      have hrest := ih hd.sane hu hrun
      refine ⟨hd.toKeeps.trans hrest.toKeeps, fun h => ?_, ?_⟩
      · rw [List.any_cons, Bool.or_eq_false_iff] at h
        exact (hrest.still h.2).trans (hd.still h.1)
      · simp only [viewAfterAll, hstep]
        exact hrest.staged

end Plans

end LinkShelf.Session

import LinkShelf.Proofs.Agent.Effect
/-!
The course of a session. Whatever the model replies, no bookmark leaves the shelf before the user
confirms it, and then none that does not come after one of the same title and address.
-/
namespace LinkShelf.Session

open LinkShelf.Act
open LinkShelf.Shelf (contents Named Orderly numbered hasId inMemory_iff)

variable {s t : Session} {v : List Bookmark} {query : String} {reply : Except Fault String}

section Replies

/-- A reply whose steps store no order. -/
def SavesNoOrder (reply : Except Fault String) : Prop :=
  ∀ steps, stepsOfReply reply = .ok steps → steps.any Step.isPersist = false

/-- The view from which is staged what is pending, after a reply. -/
def viewAfterReply (v : List Bookmark) (s : Session) (reply : Except Fault String) :
    List Bookmark :=
  match stepsOfReply reply with
  | .ok steps => viewAfterAll v (s.extendPlan steps) steps
  | .error _ => v

structure Replied (reply : Except Fault String) (v : List Bookmark) (s t : Session) : Prop
    extends Keeps s t where
  still : SavesNoOrder reply → t.shelf.items = s.shelf.items
  staged : Staged (viewAfterReply v s reply) t

theorem Rests.staged (h : Rests s t) (hv : Staged v s) : Staged v t := by
  unfold Staged
  rw [h.pending]
  exact hv

theorem Sane.extendPlan (hs : Sane s) (steps : Plan) : Rests s (s.extendPlan steps) := by
  unfold Session.extendPlan
  split
  · exact ⟨⟨hs.shelf, hs.snapshot⟩, rfl, rfl⟩
  · exact ⟨⟨hs.shelf, hs.snapshot⟩, rfl, rfl⟩

theorem ends_fail (hs : Sane s) (f : Fault) : Ends (fail query f) s (fun _ t => Rests s t)
    (fun _ t => Rests s t) := by
  unfold fail
  rw [ends_modify_bind, ends_modify_bind, ends_modify_bind, ends_get_bind, ends_pure]
  exact ⟨⟨hs.shelf, hs.snapshot⟩, rfl, rfl⟩

theorem ends_forM_dispatch (steps : Plan) (hs : Sane s) (hv : Staged v s) :
    Ends (steps.forM dispatch) s (fun _ t => Carried steps v s t)
      (fun _ t => Carried steps v s t) :=
  ends_state.mpr (run_forM_dispatch steps hs hv rfl)

theorem ends_settle (hs : Sane s) (hv : Staged v s) : Ends (settle query reply) s
    (fun _ t => Replied reply v s t) (fun _ t => Replied reply v s t) := by
  unfold settle
  cases hr : stepsOfReply reply with
  | error f =>
    have hreplied : ∀ t, Rests s t → Replied reply v s t := by
      intro t ht
      refine ⟨ht.keeps, fun _ => ht.items, ?_⟩
      rw [viewAfterReply, hr]
      exact ht.staged hv
    exact (ends_fail hs f).mono (fun _ t ht => hreplied t ht) fun _ t ht => hreplied t ht
  | ok steps =>
    have hplan := hs.extendPlan steps
    have hreplied : ∀ t, Carried steps v (s.extendPlan steps) t → Replied reply v s t := by
      intro t ht
      refine ⟨hplan.keeps.trans ht.toKeeps, fun h => ?_, ?_⟩
      · exact (ht.still (h steps hr)).trans hplan.items
      · rw [viewAfterReply, hr]
        exact ht.staged
    unfold apply
    rw [ends_get_bind, ends_modify_bind]
    refine ((ends_forM_dispatch steps hplan.sane (hplan.staged hv)).mono
      (fun _ t ht => hreplied t ht) fun _ t ht => hreplied t ht).bind fun _ t ht => ?_
    rw [ends_get_bind, ends_pure]
    exact ht

end Replies

section Confirming

structure Gone (s t : Session) : Prop where
  sane : Sane t
  items : ∃ gone, gone ⊆ s.pending ∧
    t.shelf.items = numbered (s.shelf.items.filter fun b => !gone.any (hasId · b))

structure Deleted (s t : Session) : Prop extends Gone s t where
  pending : t.pending = []

theorem Gone.rests {w : Session} (h : Gone s t) (h' : Rests t w) : Gone s w := by
  obtain ⟨gone, hgone, hitems⟩ := h.items
  exact ⟨h'.sane, gone, hgone, h'.items.trans hitems⟩

theorem ends_removeAll (hs : Sane s) : Ends (onShelf (Shelf.removeAll s.pending)) s
    (fun _ t => Gone s t) (fun _ t => Gone s t) := by
  refine (ends_onShelf (Shelf.ends_removeAll s.pending hs.shelf)).mono ?_ ?_
  · intro r t ht
    obtain ⟨u, rfl, hr⟩ := ht
    exact ⟨hs.withShelf hr.orderly, hr.items⟩
  · intro e t ht
    obtain ⟨u, rfl, count, hr⟩ := ht
    exact ⟨hs.withShelf hr.orderly, hr.items⟩

theorem Gone.deleted (h : Gone s t) : Deleted s t.cancel :=
  ⟨⟨⟨h.sane.shelf, h.sane.snapshot⟩, h.items⟩, rfl⟩

theorem Deleted.later {w : Session} (h : Deleted s t) (hsane : Sane w)
    (hitems : w.shelf.items = t.shelf.items) (hpending : w.pending = t.pending) :
    Deleted s w := by
  obtain ⟨gone, hgone, ht⟩ := h.items
  exact ⟨⟨hsane, gone, hgone, hitems.trans ht⟩, hpending.trans h.pending⟩

theorem ends_deletePending (hs : Sane s) : Ends (deletePending s.pending) s
    (fun _ t => Deleted s t) (fun _ t => Gone s t) := by
  unfold deletePending
  refine (ends_removeAll hs).bind fun removal t ht => ?_
  refine ((ends_list ht.sane).mono (fun _ _ h => h) fun _ _ h => ht.rests h).bind ?_
  intro bs w hw
  rw [ends_modify_bind, ends_modify_bind, ends_modify_bind, ends_pure]
  have hgone : Gone s (w.withSnapshot bs) :=
    ht.rests ⟨hw.2.sane.withSnapshot hw.1, hw.2.items, hw.2.pending⟩
  have hdeleted := hgone.deleted
  exact hdeleted.later ⟨hdeleted.sane.shelf, hdeleted.sane.snapshot⟩ rfl rfl

theorem ends_confirm (hs : Sane s) : Ends confirm s (fun _ t => Deleted s t)
    (fun _ t => Deleted s t) := by
  unfold confirm
  rw [ends_get_bind]
  cases hp : s.pending.isEmpty with
  | true =>
    have hnone : s.pending = [] := List.isEmpty_iff.mp hp
    simp only [hp, if_true, ends_pure]
    refine ⟨⟨hs, [], by simp, ?_⟩, hnone⟩
    simp [hs.shelf.sound.placed]
  | false =>
    simp only [hp, Bool.false_eq_true, if_false]
    refine (ends_deletePending hs).tryCatch fun f t ht => ?_
    have hdeleted := ht.deleted
    have hreport : Ends (do
        modify (record f)
        modify (say (Report.ofFault f).userMessage .error)
        pure 0 : Act Nat) t.cancel (fun _ t => Deleted s t) (fun _ t => Deleted s t) := by
      rw [ends_modify_bind, ends_modify_bind, ends_pure]
      exact hdeleted.later ⟨hdeleted.sane.shelf, hdeleted.sane.snapshot⟩ rfl rfl
    rw [ends_modify_bind]
    cases hf : f.isStore with
    | true => simpa [hf] using hreport
    | false => simpa [hf] using hdeleted

end Confirming

/-- What can be done with the agent. A request is made and replied to at once, or something else is
done between asking and the answer of the model. -/
inductive Move where
  | submit (query : String) (reply : Except Fault String)
  | ask (query : String)
  | answer (number : Nat) (query : String) (reply : Except Fault String)
  | confirm
  | cancel
  | reset
  | refresh
  | attach
  | detach

namespace Move

def act : Move → Act Unit
  | .submit query reply => do let _ ← Session.submit query reply
  | .ask query => modify fun s => (s.begin query).2
  | .answer number query reply => do let _ ← finish number query reply
  | .confirm => do let _ ← Session.confirm
  | .cancel => modify Session.cancel
  | .reset => modify Session.reset
  | .refresh => do let _ ← Session.refresh
  | .attach => modify Session.attach
  | .detach => modify Session.detach

/-- The view from which is staged what is pending, after a move. -/
def viewAfter (v : List Bookmark) (s : Session) : Move → List Bookmark
  | .submit query reply =>
    if Text.blank query then v else viewAfterReply v (s.begin query).2 reply
  | .answer number _ reply => if s.request = number then viewAfterReply v s reply else v
  | _ => v

/-- What a move may do to the bookmarks on the shelf. -/
def Leaves (s t : Session) : Move → Prop
  | .submit _ reply | .answer _ _ reply =>
    (contents t.shelf.items).Perm (contents s.shelf.items) ∧
      (SavesNoOrder reply → t.shelf.items = s.shelf.items)
  | .confirm => ∃ gone, gone ⊆ s.pending ∧
      t.shelf.items = numbered (s.shelf.items.filter fun b => !gone.any (hasId · b))
  | _ => t.shelf.items = s.shelf.items

end Move

structure Moved (m : Move) (v : List Bookmark) (s t : Session) : Prop where
  sane : Sane t
  leaves : m.Leaves s t
  staged : Staged (m.viewAfter v s) t

theorem staged_of_none (h : t.pending = []) : Staged v t := by
  simp [Staged, h]

theorem ends_finish (hs : Sane s) (hv : Staged v s) (number : Nat) :
    Ends (finish number query reply) s (fun _ t => Moved (.answer number query reply) v s t)
      (fun _ t => Moved (.answer number query reply) v s t) := by
  unfold finish
  rw [ends_get_bind]
  by_cases hn : s.request = number
  · have hmoved : ∀ t, Replied reply v s t → Moved (.answer number query reply) v s t := by
      intro t ht
      refine ⟨ht.sane, ⟨ht.same, ht.still⟩, ?_⟩
      rw [Move.viewAfter, if_pos hn]
      exact ht.staged
    simp only [hn, ne_eq, not_true_eq_false, if_false]
    exact (ends_settle hs hv).mono (fun _ t ht => hmoved t ht) fun _ t ht => hmoved t ht
  · simp only [hn, ne_eq, not_false_eq_true, if_true, ends_pure]
    refine ⟨hs, ⟨.refl _, fun _ => rfl⟩, ?_⟩
    rw [Move.viewAfter, if_neg hn]
    exact hv

theorem ends_submit (hs : Sane s) (hv : Staged v s) :
    Ends (submit query reply) s (fun _ t => Moved (.submit query reply) v s t)
      (fun _ t => Moved (.submit query reply) v s t) := by
  unfold submit
  rw [ends_get_bind]
  cases hb : Text.blank query with
  | true =>
    rw [begin_blank hb]
    simp only [ends_set_bind, ends_pure]
    refine ⟨hs, ⟨.refl _, fun _ => rfl⟩, ?_⟩
    rw [Move.viewAfter, if_pos hb]
    exact hv
  | false =>
    rw [begin_filled hb]
    simp only [ends_set_bind]
    let u : Session := { s with request := s.request + 1, pending := [] }
    have hu : Sane u := ⟨hs.shelf, hs.snapshot⟩
    have hmoved : ∀ t, Moved (.answer u.request query reply) v u t →
        Moved (.submit query reply) v s t := by
      intro t ht
      refine ⟨ht.sane, ht.leaves, ?_⟩
      have hstaged := ht.staged
      rw [Move.viewAfter, if_pos rfl] at hstaged
      rw [Move.viewAfter, if_neg (by simp [hb]), begin_filled hb]
      exact hstaged
    exact (ends_finish hu (staged_of_none rfl) u.request).mono (fun _ t ht => hmoved t ht)
      fun _ t ht => hmoved t ht

theorem ends_refresh (hs : Sane s) : Ends refresh s (fun _ t => Rests s t)
    (fun _ t => Rests s t) := by
  unfold refresh
  refine ((ends_list hs).mono (fun _ _ h => h) fun _ _ h => h).bind fun bs t ht => ?_
  rw [ends_modify_bind, ends_get_bind, ends_pure]
  exact ⟨ht.2.sane.withSnapshot ht.1, ht.2.items, ht.2.pending⟩

theorem ends_move (m : Move) (hs : Sane s) (hv : Staged v s) :
    Ends m.act s (fun _ t => Moved m v s t) (fun _ t => Moved m v s t) := by
  cases m with
  | submit query reply => exact (ends_submit hs hv).bind fun _ _ h => h
  | ask query =>
    rw [Move.act, ends_modify]
    cases hb : Text.blank query with
    | true =>
      rw [begin_blank hb]
      exact ⟨hs, rfl, hv⟩
    | false =>
      rw [begin_filled hb]
      exact ⟨⟨hs.shelf, hs.snapshot⟩, rfl, staged_of_none rfl⟩
  | answer number query reply => exact (ends_finish hs hv number).bind fun _ _ h => h
  | confirm =>
    have hmoved : ∀ t, Deleted s t → Moved .confirm v s t := fun t ht =>
      ⟨ht.sane, ht.items, staged_of_none ht.pending⟩
    exact ((ends_confirm hs).mono (fun _ t h => hmoved t h) fun _ t h => hmoved t h).bind
      fun _ _ h => h
  | cancel | reset => exact ⟨⟨hs.shelf, hs.snapshot⟩, rfl, staged_of_none rfl⟩
  | refresh =>
    have hmoved : ∀ t, Rests s t → Moved .refresh v s t := fun t ht =>
      ⟨ht.sane, ht.items, ht.staged hv⟩
    exact ((ends_refresh hs).mono (fun _ t h => hmoved t h) fun _ t h => hmoved t h).bind
      fun _ _ h => h
  | attach =>
    rw [Move.act, ends_modify]
    unfold Session.attach
    split
    · exact ⟨hs, rfl, hv⟩
    · exact ⟨⟨hs.shelf.amid _ _ _, hs.snapshot⟩, rfl, hv⟩
  | detach =>
    rw [Move.act, ends_modify]
    unfold Session.detach
    split
    · exact ⟨⟨hs.shelf.amid _ _ _, hs.snapshot⟩, rfl, hv⟩
    · exact ⟨hs, rfl, hv⟩

/-- A session as it is made: nothing has been seen or staged. -/
structure New (s : Session) : Prop where
  shelf : Shelf.Reachable s.shelf
  snapshot : s.snapshot = []
  pending : s.pending = []

/-- The states of a session, each with the view from which is staged what is pending. The shelf may
be used by others as well. -/
inductive Course : List Bookmark → Session → Prop where
  | new {s : Session} (h : New s) : Course [] s
  | move {v : List Bookmark} {s t : Session} {r : Except Fault Unit} (h : Course v s) (m : Move)
      (hrun : run m.act s = (r, t)) : Course (m.viewAfter v s) t
  | shelf {v : List Bookmark} {s t : Session} {r : Except Fault Unit} (h : Course v s)
      (o : Shelf.Op) (ho : Shelf.Unused s.shelf.supply s.shelf.drawn (o.brings s.shelf))
      (hrun : run (onShelf o.act) s = (r, t)) : Course v t
  | surroundings {v : List Bookmark} {s : Session} (h : Course v s) (disk : Disk)
      (outages : Call → List (Option Fault)) :
      Course v { s with shelf := { s.shelf with disk, outages } }
  | listeners {v : List Bookmark} {s : Session} (h : Course v s) (listeners : List Listener) :
      Course v { s with shelf := { s.shelf with listeners } }

theorem Course.sane (h : Course v s) : Sane s ∧ Staged v s := by
  induction h with
  | new h =>
    have hsnapshot : Named _ := h.snapshot ▸ Shelf.named_nil
    exact ⟨⟨h.shelf.orderly, hsnapshot⟩, staged_of_none h.pending⟩
  | move _ m hrun ih =>
    have hmoved := (ends_move m ih.1 ih.2).state hrun
    exact ⟨hmoved.sane, hmoved.staged⟩
  | @shelf v s t r _ o ho hrun ih =>
    have hshelf := (Shelf.ends_op o ih.1.shelf ho).mono
      (fun _ _ h => h.orderly ih.1.shelf ho) fun _ _ h => h.orderly ih.1.shelf ho
    have hsane : ∀ w, (∃ u, w = s.withShelf u ∧ Orderly u) → Sane w ∧ Staged v w := by
      intro w hw
      obtain ⟨u, rfl, hu⟩ := hw
      exact ⟨ih.1.withShelf hu, ih.2⟩
    exact hsane t ((ends_onShelf hshelf).state hrun)
  | surroundings _ disk outages ih | listeners _ listeners ih =>
    obtain ⟨⟨hshelf, hsnapshot⟩, hv⟩ := ih
    exact ⟨⟨hshelf.amid _ _ _, hsnapshot⟩, hv⟩

/-- Nothing that is done with the agent, whatever the model replies, makes a bookmark leave the
shelf or changes one, but that a confirmation removes pending ones; and each of these comes, in the
view it was staged from, after one of the same title and address that is not staged. -/
theorem agent_destroys_nothing (h : Course v s) :
    (∀ m : Move, Ends m.act s (fun _ t => m.Leaves s t) fun _ t => m.Leaves s t) ∧
      ∀ id ∈ s.pending, Bookmark.Preceded s.pending v id := by
  obtain ⟨hs, hv⟩ := h.sane
  exact ⟨fun m => (ends_move m hs hv).mono (fun _ _ h => h.leaves) fun _ _ h => h.leaves, hv⟩

section Twins

/-- Two bookmarks of the same title and address, blanks and case aside. -/
def twins : List Bookmark :=
  [{ id := some "a", title := .str "Lean", url := .str "u" },
    { id := some "b", title := .str " lean", url := .str "U " }]

def emptyShelf : Shelf := { supply := Shelf.unary }

@[irreducible] def twinShelf : Shelf := (Shelf.run (Shelf.fill twins) emptyShelf).2

def twinReply : Except Fault String := .ok "[\x7b\"action\": \"removeDuplicates\"\x7d]"

@[irreducible] def twinSeen : Session := (run Move.refresh.act { shelf := twinShelf }).2

/-- A session with both on its shelf, after a request to remove duplicates. -/
@[irreducible] def twinStaged : Session := (run (Move.submit "twice" twinReply).act twinSeen).2

theorem twinShelf_reachable : Shelf.Reachable twinShelf := by
  have hnew : Shelf.New emptyShelf := ⟨rfl, rfl, Shelf.fresh_unary⟩
  have hunused : Shelf.Unused emptyShelf.supply emptyShelf.drawn twins := by
    intro k _ b hb hid
    simp only [twins, List.mem_cons, List.not_mem_nil, or_false] at hb
    rcases hb with rfl | rfl
    · exact Shelf.ne_unary (by decide) k (Option.some.inj hid)
    · exact Shelf.ne_unary (by decide) k (Option.some.inj hid)
  unfold twinShelf
  exact .filled hnew hunused rfl

theorem twinSeen_course : Course [] twinSeen := by
  unfold twinSeen
  exact (Course.new ⟨twinShelf_reachable, rfl, rfl⟩).move .refresh rfl

theorem twinStaged_course :
    Course ((Move.submit "twice" twinReply).viewAfter [] twinSeen) twinStaged := by
  unfold twinStaged
  exact twinSeen_course.move (.submit "twice" twinReply) rfl

theorem twinStaged_memory : twinStaged.shelf.medium = .memory :=
  inMemory_iff.mp (by decide +kernel)

theorem twins_preceded : twinStaged.pending = ["b"] ∧
    (∀ m : Move, Ends m.act twinStaged (fun _ t => m.Leaves twinStaged t)
      fun _ t => m.Leaves twinStaged t) ∧
    ∀ id ∈ twinStaged.pending, Bookmark.Preceded twinStaged.pending
      ((Move.submit "twice" twinReply).viewAfter [] twinSeen) id :=
  ⟨by decide +kernel, agent_destroys_nothing twinStaged_course⟩

end Twins

end LinkShelf.Session

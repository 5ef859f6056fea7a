import LinkShelf.Proofs.Agent.Course
import LinkShelf.Proofs.Agent.Notice
/-!
An attached session follows its shelf. From the time it has seen the collection and been attached,
whatever is done with the shelf or with the agent, what it shows is the plan run over what the shelf
holds.
-/
namespace LinkShelf.Session

open LinkShelf.Act
open LinkShelf.Shelf (Kept Unused numbered)

variable {α β : Type} {follows : Bool} {s t : Session} {u : Shelf} {query : String}
  {reply : Except Fault String}

/-- The snapshot is the collection on the shelf. A session that follows its shelf is also told
about changes. -/
structure Mirrors (follows : Bool) (s : Session) : Prop where
  sane : Sane s
  snapshot : s.snapshot = s.shelf.items
  told : follows = true → .agent ∈ s.shelf.listeners

theorem Mirrors.withShelf (h : Mirrors follows s) (hu : Told s.shelf u) :
    Mirrors follows (s.withShelf u) := by
  obtain ⟨news, hnotices, hitems⟩ := hu.news
  refine ⟨h.sane.withShelf hu.orderly, ?_, fun hf => hu.setup.listeners ▸ h.told hf⟩
  show (lastHeard (u.notices.drop s.shelf.notices.length)).getD s.snapshot = u.items
  rw [hnotices, List.drop_left, h.snapshot, hitems]

theorem Mirrors.elsewhere (h : Mirrors follows s) (hshelf : t.shelf = s.shelf)
    (hsnapshot : t.snapshot = s.snapshot) : Mirrors follows t := by
  refine ⟨⟨?_, ?_⟩, ?_, ?_⟩
  · rw [hshelf]
    exact h.sane.shelf
  · rw [hsnapshot]
    exact h.sane.snapshot
  · rw [hshelf, hsnapshot]
    exact h.snapshot
  · rw [hshelf]
    exact h.told

theorem Mirrors.view (h : Mirrors follows s) :
    s.view = (Plan.run (Plan.arrange s.plan) s.shelf.items).map shown := by
  rw [Session.view, h.snapshot]

/-- An operation that a session comes out of as a mirror of its shelf if it went in as one, whether
it succeeds or fails. -/
def Faithful (follows : Bool) (act : Act α) : Prop :=
  ∀ s, Mirrors follows s → Ends act s (fun _ t => Mirrors follows t) fun _ t => Mirrors follows t

section Faithful

theorem faithful_pure (a : α) : Faithful follows (pure a) := fun _ hs => hs

theorem faithful_throw (f : Fault) : Faithful follows (throw f : Act α) := fun _ hs => hs

theorem faithful_modify (f : Session → Session)
    (h : ∀ s, (f s).shelf = s.shelf ∧ (f s).snapshot = s.snapshot) :
    Faithful follows (modify f) := fun s hs => hs.elsewhere (h s).1 (h s).2

theorem Faithful.bind {act : Act α} {f : α → Act β} (h : Faithful follows act)
    (hf : ∀ a, Faithful follows (f a)) : Faithful follows (act >>= f) := fun s hs =>
  (h s hs).bind fun a t ht => hf a t ht

theorem faithful_get_bind {f : Session → Act β} (hf : ∀ s, Faithful follows (f s)) :
    Faithful follows (get >>= f) := fun s hs => ends_get_bind.mpr (hf s s hs)

theorem faithful_lift_bind {r : Except Fault α} {f : α → Act β}
    (hf : ∀ a, Faithful follows (f a)) :
    Faithful follows ((liftM r : Act α) >>= f) := fun s hs =>
  ends_lift_bind (fun a _ => hf a s hs) fun _ _ => hs

theorem Faithful.tryCatch {act : Act α} {f : Fault → Act α} (h : Faithful follows act)
    (hf : ∀ e, Faithful follows (f e)) : Faithful follows (tryCatch act f) := fun s hs =>
  (h s hs).tryCatch fun e t ht => hf e t ht

theorem faithful_forM {f : α → Act PUnit} {as : List α}
    (hf : ∀ a ∈ as, Faithful follows (f a)) : Faithful follows (as.forM f) := by
  induction as with
  | nil => exact faithful_pure _
  | cons a as ih =>
    exact (hf a List.mem_cons_self).bind fun _ => ih fun b hb => hf b (List.mem_cons_of_mem _ hb)

theorem faithful_onShelf {act : Shelf.Act α} (h : ∀ s : Session, Mirrors follows s →
    Ends act s.shelf (fun _ u => Told s.shelf u) fun _ u => Told s.shelf u) :
    Faithful follows (onShelf act) := by
  intro s hs
  refine (ends_onShelf (h s hs)).mono ?_ ?_
  · rintro a t ⟨u, rfl, hu⟩
    exact hs.withShelf hu
  · rintro e t ⟨u, rfl, hu⟩
    exact hs.withShelf hu

end Faithful

section Listing

/-- An operation that brings the collection as it stands. -/
def Brings (follows : Bool) (act : Act (List Bookmark)) : Prop :=
  ∀ s, Mirrors follows s → Ends act s
    (fun bs t => bs = t.shelf.items ∧ Mirrors follows t) fun _ t => Mirrors follows t

theorem brings_list : Brings follows (onShelf Shelf.list) := by
  intro s hs
  refine (ends_onShelf (Shelf.ends_list s.shelf)).mono ?_ ?_
  · rintro bs t ⟨u, rfl, rfl, hu⟩
    exact ⟨hu.items.symm, hs.withShelf (.of_kept hs.sane.shelf hu)⟩
  · rintro e t ⟨u, rfl, hu⟩
    exact hs.withShelf (.of_kept hs.sane.shelf hu)

theorem brings_reload : Brings follows reload := fun s hs =>
  (brings_list s hs).tryCatch fun f t ht => by
    rw [ends_get_bind, ends_throw]
    exact ht

/-- A session that takes over what was brought mirrors the shelf. -/
theorem Brings.bind {act : Act (List Bookmark)} {f : List Bookmark → Act β}
    (h : Brings follows act) (hf : ∀ bs, Faithful follows (f bs)) :
    Faithful follows (do
      let bs ← act
      modify (withSnapshot bs)
      f bs) := fun s hs =>
  (h s hs).bind fun bs t ht => by
    obtain ⟨rfl, ht⟩ := ht
    rw [ends_modify_bind]
    exact hf _ _ ⟨ht.sane.withSnapshot ht.sane.shelf.sound.toNamed, rfl, ht.told⟩

end Listing

section Requests

theorem faithful_say (text : String) (level : Level) : Faithful follows (modify (say text level)) :=
  faithful_modify (say text level) fun _ => ⟨rfl, rfl⟩

theorem faithful_record (f : Fault) : Faithful follows (modify (record f)) :=
  faithful_modify (record f) fun _ => ⟨rfl, rfl⟩

theorem faithful_stageDuplicates : Faithful follows stageDuplicates := by
  refine faithful_get_bind fun s => faithful_lift_bind fun ids => ?_
  cases ids with
  | nil => exact faithful_say _ _
  | cons id ids =>
    exact (faithful_modify ({ · with pending := id :: ids }) fun _ => ⟨rfl, rfl⟩).bind fun _ =>
      (faithful_modify (emit (.stage (id :: ids))) fun _ => ⟨rfl, rfl⟩).bind fun _ =>
        faithful_say _ _

/-- The new order is told before the collection is asked for again, so that it is known even if
that fails. -/
theorem faithful_persistOrder (step : Step) : Faithful true (persistOrder step) := by
  have hsave : ∀ c, Faithful true (onShelf (Shelf.saveOrder c)) := fun c =>
    faithful_onShelf fun s hs => told_saveOrder c hs.sane.shelf (hs.told rfl)
  refine faithful_get_bind fun s => Faithful.bind (Faithful.tryCatch ?_ ?_) ?_
  · refine Faithful.bind ?_ fun _ => brings_reload.bind fun _ => faithful_pure _
    exact (hsave _).bind fun _ => faithful_pure _
  · intro f
    have hrest : Faithful true (do
        modify (record f)
        modify (say "Failed to persist new order." .error)
        pure false) :=
      (faithful_record f).bind fun _ => (faithful_say _ _).bind fun _ => faithful_pure _
    cases hf : f.isStore with
    | true => simpa [hf] using hrest
    | false => simpa [hf] using faithful_throw f
  · intro saved
    cases saved with
    | true =>
      exact (faithful_modify (fun s => { s with plan := Plan.withoutOrdering s.plan })
        fun _ => ⟨rfl, rfl⟩).bind fun _ => faithful_say _ _
    | false => exact faithful_pure _

theorem faithful_dispatch {step : Step}
    (hsave : step.isPersist = true → Faithful follows (persistOrder step)) :
    Faithful follows (dispatch step) := by
  unfold dispatch
  cases hk : step.known with
  | none => exact faithful_pure _
  | some a =>
    cases a with
    | help | importBookmarks | exportBookmarks =>
      exact faithful_modify (emit _) fun _ => ⟨rfl, rfl⟩
    | removeDuplicates => exact faithful_stageDuplicates
    | reorder | reorderAscending | reorderDescending | persistSortedOrder =>
      exact hsave (by simp [Step.isPersist, Step.is, hk, Action.savesOrder])
    | _ => exact faithful_pure _

/-- A reply all of whose steps that store an order do so faithfully. -/
def StoresFaithfully (follows : Bool) (reply : Except Fault String) : Prop :=
  ∀ steps, stepsOfReply reply = .ok steps → ∀ step ∈ steps, step.isPersist = true →
    Faithful follows (persistOrder step)

theorem SavesNoOrder.storesFaithfully (h : SavesNoOrder reply) :
    StoresFaithfully follows reply := fun steps hsteps step hstep hp => by
  have hany : steps.any Step.isPersist = true := List.any_eq_true.mpr ⟨step, hstep, hp⟩
  rw [h steps hsteps] at hany
  cases hany

theorem storesFaithfully (reply : Except Fault String) : StoresFaithfully true reply :=
  fun _ _ step _ _ => faithful_persistOrder step

theorem faithful_settle (h : StoresFaithfully follows reply) :
    Faithful follows (settle query reply) := by
  unfold settle
  cases hr : stepsOfReply reply with
  | error f =>
    exact (faithful_record f).bind fun _ =>
      (faithful_modify (fallBack query (Report.ofFault f).message) fun _ => ⟨rfl, rfl⟩).bind
        fun _ => (faithful_say _ _).bind fun _ => faithful_get_bind fun _ => faithful_pure _
  | ok steps =>
    have hextend : ∀ s : Session,
        (s.extendPlan steps).shelf = s.shelf ∧ (s.extendPlan steps).snapshot = s.snapshot := by
      intro s
      unfold Session.extendPlan
      split <;> exact ⟨rfl, rfl⟩
    exact faithful_get_bind fun _ => (faithful_modify (extendPlan steps) hextend).bind fun _ =>
      (faithful_forM fun step hstep => faithful_dispatch (h steps hr step hstep)).bind fun _ =>
        faithful_get_bind fun _ => faithful_pure _

theorem faithful_finish (number : Nat) (h : StoresFaithfully follows reply) :
    Faithful follows (finish number query reply) := by
  refine faithful_get_bind fun s => ?_
  by_cases hn : s.request = number
  · simpa only [hn, ne_eq, not_true_eq_false, if_false] using faithful_settle h
  · simpa only [hn, ne_eq, not_false_eq_true, if_true] using faithful_pure _

theorem begin_elsewhere (query : String) (s : Session) :
    (s.begin query).2.shelf = s.shelf ∧ (s.begin query).2.snapshot = s.snapshot := by
  unfold Session.begin
  split <;> exact ⟨rfl, rfl⟩

theorem faithful_submit (h : StoresFaithfully follows reply) :
    Faithful follows (submit query reply) := by
  intro s hs
  unfold submit
  rw [ends_get_bind]
  obtain ⟨hshelf, hsnapshot⟩ := begin_elsewhere query s
  have hbegun := hs.elsewhere hshelf hsnapshot
  cases hb : s.begin query with
  | mk number t =>
    rw [hb] at hbegun
    simp only [ends_set_bind]
    cases number with
    | none => exact hbegun
    | some n => exact faithful_finish n h t hbegun

end Requests

theorem faithful_refresh : Faithful follows refresh :=
  brings_list.bind fun _ => faithful_get_bind fun _ => faithful_pure _

/-- However many of the removals came about, each was told. -/
theorem faithful_confirm : Faithful true confirm := by
  have hdelete : ∀ ids, Faithful true (deletePending ids) := by
    intro ids
    refine (faithful_onShelf fun s hs =>
      told_removeAll ids hs.sane.shelf (hs.told rfl)).bind fun _ => brings_list.bind fun _ => ?_
    exact (faithful_modify cancel fun _ => ⟨rfl, rfl⟩).bind fun _ =>
      (faithful_say _ _).bind fun _ => faithful_pure _
  refine faithful_get_bind fun s => ?_
  cases hp : s.pending.isEmpty with
  | true => simpa only [hp, if_true] using faithful_pure 0
  | false =>
    simp only [hp, Bool.false_eq_true, if_false]
    refine (hdelete _).tryCatch fun f =>
      (faithful_modify cancel fun _ => ⟨rfl, rfl⟩).bind fun _ => ?_
    have hreport : Faithful true (do
        modify (record f)
        modify (say (Report.ofFault f).userMessage .error)
        pure 0 : Act Nat) :=
      (faithful_record f).bind fun _ => (faithful_say _ _).bind fun _ => faithful_pure _
    cases hf : f.isStore with
    | true => simpa [hf] using hreport
    | false => simpa [hf] using faithful_throw f

namespace Move

/-- A move that writes nothing to the shelf. -/
def Looks : Move → Prop
  | .submit _ reply | .answer _ _ reply => SavesNoOrder reply
  | .confirm => False
  | _ => True

end Move

theorem Mirrors.attach (h : Mirrors follows s) : Mirrors follows s.attach := by
  unfold Session.attach
  split
  · exact h
  · exact ⟨⟨h.sane.shelf.amid _ _ _, h.sane.snapshot⟩, h.snapshot,
      fun hf => List.mem_append_left _ (h.told hf)⟩

theorem faithful_looking {m : Move} (hm : m.Looks) : Faithful false m.act := by
  cases m with
  | submit query reply =>
    exact (faithful_submit (SavesNoOrder.storesFaithfully hm)).bind fun _ => faithful_pure _
  | answer number query reply =>
    exact (faithful_finish number (SavesNoOrder.storesFaithfully hm)).bind fun _ =>
      faithful_pure _
  | ask query => exact faithful_modify (fun s => (s.begin query).2) (begin_elsewhere query)
  | confirm => exact hm.elim
  | cancel => exact faithful_modify Session.cancel fun _ => ⟨rfl, rfl⟩
  | reset => exact faithful_modify Session.reset fun _ => ⟨rfl, rfl⟩
  | refresh => exact faithful_refresh.bind fun _ => faithful_pure _
  | attach => exact fun s hs => hs.attach
  | detach =>
    intro s hs
    rw [Move.act, ends_modify]
    unfold Session.detach
    split
    · exact ⟨⟨hs.sane.shelf.amid _ _ _, hs.sane.snapshot⟩, hs.snapshot,
        fun hf => absurd hf Bool.false_ne_true⟩
    · exact hs

theorem faithful_move {m : Move} (hm : m ≠ .detach) : Faithful true m.act := by
  cases m with
  | submit query reply =>
    exact (faithful_submit (storesFaithfully reply)).bind fun _ => faithful_pure _
  | answer number query reply =>
    exact (faithful_finish number (storesFaithfully reply)).bind fun _ => faithful_pure _
  | ask query => exact faithful_modify (fun s => (s.begin query).2) (begin_elsewhere query)
  | confirm => exact faithful_confirm.bind fun _ => faithful_pure _
  | cancel => exact faithful_modify Session.cancel fun _ => ⟨rfl, rfl⟩
  | reset => exact faithful_modify Session.reset fun _ => ⟨rfl, rfl⟩
  | refresh => exact faithful_refresh.bind fun _ => faithful_pure _
  | attach => exact fun s hs => hs.attach
  | detach => exact (hm rfl).elim

/-- A session since it has seen the collection, while nothing is written to the shelf. -/
inductive Seen : Session → Prop where
  | refresh {v bs : List Bookmark} {s t : Session} (h : Course v s)
      (hrun : run refresh s = (.ok bs, t)) : Seen t
  | move {s t : Session} {r : Except Fault Unit} (h : Seen s) (m : Move) (hm : m.Looks)
      (hrun : run m.act s = (r, t)) : Seen t
  | list {s t : Session} {r : Except Fault (List Bookmark)} (h : Seen s)
      (hrun : run (onShelf Shelf.list) s = (r, t)) : Seen t
  | fetch {s t : Session} {r : Except Fault Bookmark} (h : Seen s) (id : String)
      (hrun : run (onShelf (Shelf.fetch id)) s = (r, t)) : Seen t
  | surroundings {s : Session} (h : Seen s) (disk : Disk)
      (outages : Call → List (Option Fault)) :
      Seen { s with shelf := { s.shelf with disk, outages } }
  | listeners {s : Session} (h : Seen s) (listeners : List Listener) :
      Seen { s with shelf := { s.shelf with listeners } }

/-- A session since it was attached, having seen the collection before, until it is detached. Others
may use the shelf as well, and listen to it. -/
inductive Watching : Session → Prop where
  | attach {s : Session} (h : Seen s) (hs : s.attached = true → .agent ∈ s.shelf.listeners) :
      Watching s.attach
  | move {s t : Session} {r : Except Fault Unit} (h : Watching s) (m : Move) (hm : m ≠ .detach)
      (hrun : run m.act s = (r, t)) : Watching t
  | shelf {s t : Session} {r : Except Fault Unit} (h : Watching s) (o : Shelf.Op)
      (ho : o ≠ .load) (hbrings : Unused s.shelf.supply s.shelf.drawn (o.brings s.shelf))
      (hrun : run (onShelf o.act) s = (r, t)) : Watching t
  | surroundings {s : Session} (h : Watching s) (disk : Disk)
      (outages : Call → List (Option Fault)) :
      Watching { s with shelf := { s.shelf with disk, outages } }
  | listeners {s : Session} (h : Watching s) (listeners : List Listener)
      (hl : .agent ∈ listeners) : Watching { s with shelf := { s.shelf with listeners } }

theorem mirrors_refreshed (hs : Sane s) {bs : List Bookmark}
    (hrun : run refresh s = (.ok bs, t)) : Mirrors false t := by
  have hrefresh : Ends refresh s (fun _ t => Mirrors false t) (fun _ _ => True) := by
    refine ((ends_onShelf (Shelf.ends_list s.shelf)).mono (fun _ _ h => h)
      fun _ _ _ => trivial).bind ?_
    rintro bs t ⟨u, rfl, rfl, hu⟩
    have hsane := (hs.kept hu).sane
    rw [ends_modify_bind, ends_get_bind, ends_pure]
    exact ⟨hsane.withSnapshot hs.shelf.sound.toNamed, hu.items.symm,
      fun hf => absurd hf Bool.false_ne_true⟩
  exact (ends_iff.mp hrefresh).1 bs t hrun

theorem Seen.mirrors (h : Seen s) : Mirrors false s := by
  induction h with
  | refresh h hrun => exact mirrors_refreshed h.sane.1 hrun
  | move _ m hm hrun ih => exact (faithful_looking hm _ ih).state hrun
  | list _ hrun ih =>
    exact ((brings_list _ ih).mono (fun _ _ h => h.2) fun _ _ h => h).state hrun
  | fetch _ id hrun ih =>
    have hfetch : Faithful false (onShelf (Shelf.fetch id)) := faithful_onShelf fun s hs =>
      (Shelf.ends_fetch s.shelf).mono (fun _ _ h => .of_kept hs.sane.shelf h.2)
        fun _ _ h => .of_kept hs.sane.shelf h
    exact (hfetch _ ih).state hrun
  | surroundings _ disk outages ih | listeners _ listeners ih =>
    obtain ⟨⟨hshelf, hsnapshot⟩, hs, -⟩ := ih
    exact ⟨⟨hshelf.amid _ _ _, hsnapshot⟩, hs, fun hf => absurd hf Bool.false_ne_true⟩

theorem Watching.mirrors (h : Watching s) : Mirrors true s := by
  induction h with
  | @attach s h hs =>
    have hattached := h.mirrors.attach
    refine ⟨hattached.sane, hattached.snapshot, fun _ => ?_⟩
    unfold Session.attach
    split
    · exact hs ‹_›
    · exact List.mem_append_right _ (List.mem_singleton.mpr rfl)
  | move _ m hm hrun ih => exact (faithful_move hm _ ih).state hrun
  | @shelf s t r _ o ho hbrings hrun ih =>
    have hop := ends_onShelf (told_op ho ih.sane.shelf (ih.told rfl) hbrings)
    have hstate : Ends (onShelf o.act) s (fun _ t => Mirrors true t) fun _ t => Mirrors true t :=
      hop.mono (fun _ _ ⟨_, ht, hu⟩ => ht ▸ ih.withShelf hu) fun _ _ ⟨_, ht, hu⟩ =>
        ht ▸ ih.withShelf hu
    exact hstate.state hrun
  | surroundings _ disk outages ih =>
    obtain ⟨⟨hshelf, hsnapshot⟩, hs, hl⟩ := ih
    exact ⟨⟨hshelf.amid _ _ _, hsnapshot⟩, hs, hl⟩
  | listeners _ listeners hl ih =>
    obtain ⟨⟨hshelf, hsnapshot⟩, hs, -⟩ := ih
    exact ⟨⟨hshelf.amid _ _ _, hsnapshot⟩, hs, fun _ => hl⟩

/-- An attached session has in view what the shelf holds: its snapshot is the collection, and its
view is the plan run over that. -/
theorem watching_live (h : Watching s) : s.snapshot = s.shelf.items ∧
    s.view = (Plan.run (Plan.arrange s.plan) s.shelf.items).map shown :=
  ⟨h.mirrors.snapshot, h.mirrors.view⟩

section Twins

@[irreducible] def twinRefresh : Except Fault (List Bookmark) × Session :=
  run refresh { shelf := twinShelf }

/-- An attached session, after another user of its shelf has removed a bookmark. -/
@[irreducible] def twinBereft : Session :=
  (run (onShelf (Shelf.Op.write (.remove "a")).act) twinRefresh.2.attach).2

theorem twinBereft_watching : Watching twinBereft := by
  have hcourse : Course [] { shelf := twinShelf } := .new ⟨twinShelf_reachable, rfl, rfl⟩
  have hok : twinRefresh.1.isOk = true := by decide +kernel
  have hseen : Seen twinRefresh.2 := by
    cases hr : twinRefresh with
    | mk r t =>
      cases r with
      | error e => simp [hr, Except.isOk, Except.toBool] at hok
      | ok bs =>
        unfold twinRefresh at hr
        exact .refresh hcourse hr
  have hattached : Watching twinRefresh.2.attach :=
    .attach hseen fun h => absurd h (by decide +kernel)
  unfold twinBereft
  exact hattached.shelf (.write (.remove "a")) (fun h => nomatch h)
    (by simp [Unused, Shelf.Op.brings, Shelf.Write.brings]) rfl

theorem twinBereft_live : twinBereft.shelf.items.map (·.id) = [some "b"] ∧
    twinBereft.snapshot = twinBereft.shelf.items ∧
    twinBereft.view =
      (Plan.run (Plan.arrange twinBereft.plan) twinBereft.shelf.items).map shown :=
  ⟨by decide +kernel, watching_live twinBereft_watching⟩

end Twins

end LinkShelf.Session

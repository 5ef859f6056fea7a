import LinkShelf.Proofs.Agent.Course
import LinkShelf.Proofs.Agent.Overtaking
import LinkShelf.Proofs.Agent.Storing
import LinkShelf.Proofs.Bookmark.Reread
/-!
Whatever goes wrong while a request is made, the request returns. If the model or its reply fails,
the session falls back to a search for the words of the request; if an order cannot be stored, the
user is told and the plan stays. All that has to hold for this is that titles and addresses are
texts.
-/
namespace LinkShelf

namespace Bookmark

variable {b : Bookmark} {bs : List Bookmark}

/-- Title and address are texts, so that there is a key to tell duplicates by. -/
structure Keyed (b : Bookmark) : Prop where
  title : IsText b.title
  url : IsText b.url

instance (v : Json) : Decidable (IsText v) :=
  match v with
  | .str s => isTrue ⟨s, rfl⟩
  | .null | .bool _ | .int _ | .float _ | .arr _ | .obj _ => isFalse nofun

instance (b : Bookmark) : Decidable b.Keyed :=
  decidable_of_iff (IsText b.title ∧ IsText b.url) ⟨fun h => ⟨h.1, h.2⟩, fun h => ⟨h.title, h.url⟩⟩

theorem keyPart_text {v : Json} (h : IsText v) : ∃ t, keyPart v = .ok t := by
  obtain ⟨s, rfl⟩ := h
  unfold keyPart trimmed
  split
  · exact ⟨_, rfl⟩
  · exact ⟨_, rfl⟩

theorem Keyed.duplicateKey (h : Keyed b) : ∃ key, b.duplicateKey = .ok key := by
  obtain ⟨title, htitle⟩ := keyPart_text h.title
  obtain ⟨url, hurl⟩ := keyPart_text h.url
  unfold Bookmark.duplicateKey
  rw [htitle, hurl]
  exact ⟨_, rfl⟩

theorem duplicatesAfter_keyed (seen : List (String × String)) (h : ∀ b ∈ bs, Keyed b) :
    ∃ staged, duplicatesAfter seen bs = .ok staged := by
  induction bs generalizing seen with
  | nil => exact ⟨[], rfl⟩
  | cons b bs ih =>
    obtain ⟨key, hkey⟩ := (h b (by simp)).duplicateKey
    have hrest : ∀ seen, ∃ staged, duplicatesAfter seen bs = .ok staged := fun seen =>
      ih seen fun c hc => h c (by simp [hc])
    unfold duplicatesAfter
    rw [hkey]
    show ∃ staged, (if key ∈ seen then _ else _) = _
    split
    · obtain ⟨staged, hstaged⟩ := hrest seen
      rw [hstaged]
      exact ⟨_, rfl⟩
    · exact hrest (key :: seen)

end Bookmark

namespace Session

open LinkShelf.Act
open LinkShelf.Shelf (contents)

variable {s t : Session} {step : Step} {steps : Plan} {query : String}
  {reply : Except Fault String} {bs : List Bookmark} {f : Fault}

/-- A session in order, all of whose bookmarks have a key. -/
structure Readable (s : Session) : Prop extends Sane s where
  items : ∀ b ∈ s.shelf.items, b.Keyed
  seen : ∀ b ∈ s.snapshot, b.Keyed

section Keeping

theorem Readable.same (hs : Readable s) (hshelf : t.shelf = s.shelf)
    (hsnapshot : t.snapshot = s.snapshot) : Readable t := by
  refine ⟨⟨?_, ?_⟩, ?_, ?_⟩
  · rw [hshelf]
    exact hs.shelf
  · rw [hsnapshot]
    exact hs.snapshot
  · rw [hshelf]
    exact hs.items
  · rw [hsnapshot]
    exact hs.seen

theorem Readable.sees (hs : Readable s) (h : Sees s t) : Readable t := by
  have hkeyed : ∀ {bs cs : List Bookmark}, (contents bs).Perm (contents cs) →
      (∀ c ∈ cs, c.Keyed) → ∀ b ∈ bs, b.Keyed := by
    intro bs cs hsame hcs b hb
    obtain ⟨c, hc, heq⟩ := Shelf.exists_unplaced_eq hsame hb
    exact ⟨congrArg Bookmark.title heq ▸ (hcs c hc).title,
      congrArg Bookmark.url heq ▸ (hcs c hc).url⟩
  have hitems := hkeyed h.same hs.items
  refine ⟨h.sane, hitems, ?_⟩
  rcases h.seen with hseen | hseen
  · rw [hseen]
    exact hs.seen
  · exact hkeyed hseen hitems

theorem Readable.view (hs : Readable s) : ∀ b ∈ s.view, b.Keyed := by
  intro b hb
  obtain ⟨c, hc, rfl⟩ := List.mem_map.mp hb
  have hkeyed := hs.seen c ((Plan.run_subperm _ s.snapshot).subset hc)
  exact ⟨hkeyed.title, hkeyed.url⟩

end Keeping

section Returning

theorem returns_stageDuplicates (hs : Readable s) :
    Ends stageDuplicates s (fun _ t => Readable t) (fun _ _ => False) := by
  obtain ⟨ids, hids⟩ := Bookmark.duplicatesAfter_keyed [] hs.view
  unfold stageDuplicates
  rw [ends_get_bind]
  refine ends_lift_bind (fun ids _ => ?_) fun f hf => by cases hids.symm.trans hf
  cases ids with
  | nil => exact hs.same rfl rfl
  | cons id ids => exact hs.same rfl rfl

theorem returns_persistOrder (hs : Readable s) (step : Step) :
    Ends (persistOrder step) s (fun _ t => Readable t) (fun _ _ => False) :=
  (sees_persistOrder hs.toSane step).mono (fun _ _ h => hs.sees h) fun _ _ h => h

theorem returns_dispatch (hs : Readable s) (step : Step) :
    Ends (dispatch step) s (fun _ t => Readable t) (fun _ _ => False) := by
  unfold dispatch
  cases step.known with
  | none => exact hs
  | some a =>
    cases a with
    | help | importBookmarks | exportBookmarks => exact hs.same rfl rfl
    | removeDuplicates => exact returns_stageDuplicates hs
    | reorder | reorderAscending | reorderDescending | persistSortedOrder =>
      exact returns_persistOrder hs step
    | _ => exact hs

theorem run_dispatch_returns (hs : Readable s) (step : Step) :
    ∃ t, run (dispatch step) s = (.ok (), t) ∧ Readable t := by
  have hends := ends_iff.mp (returns_dispatch hs step)
  rcases hr : run (dispatch step) s with ⟨x, t⟩
  cases x with
  | ok _ => exact ⟨t, rfl, hends.1 () t hr⟩
  | error f => exact (hends.2 f t hr).elim

/-- All steps are carried out, and what they tell comes after what was told before. -/
theorem run_forM_returns (hs : Readable s) (steps : Plan) :
    ∃ t, run (steps.forM dispatch) s = (.ok (), t) ∧ Readable t ∧ s.events <+: t.events := by
  induction steps generalizing s with
  | nil => exact ⟨s, run_forM_nil s, hs, List.prefix_refl _⟩
  | cons step steps ih =>
    obtain ⟨u, hstep, hu⟩ := run_dispatch_returns hs step
    obtain ⟨t, hsteps, ht, hevents⟩ := ih hu
    have hfirst := ((stepped_dispatch step s).state hstep).events
    refine ⟨t, ?_, ht, hfirst.trans hevents⟩
    rw [run_forM_cons, hstep]
    exact hsteps

theorem run_forM_append {p q : Plan} (h : run (p.forM dispatch) s = (.ok (), t)) :
    run ((p ++ q).forM dispatch) s = run (q.forM dispatch) t := by
  induction p generalizing s with
  | nil =>
    obtain ⟨-, rfl⟩ := Prod.mk.inj ((run_forM_nil s).symm.trans h)
    rfl
  | cons step p ih =>
    rw [run_forM_cons] at h
    rw [List.cons_append, run_forM_cons]
    rcases hstep : run (dispatch step) s with ⟨x, u⟩
    rw [hstep] at h
    cases x with
    | ok _ => exact ih h
    | error f => cases h

end Returning

section Answering

theorem Readable.extendPlan (hs : Readable s) (steps : Plan) : Readable (s.extendPlan steps) := by
  rw [extendPlan_eq]
  exact hs.same rfl rfl

/-- What the reply to a request comes to where something fails. If it is the model or its reply,
the outcome says so and shows the search for the words of the request. If it is a call of the shelf
for a step that stores an order, that step changes nothing in the plan, and the outcome says so. -/
structure Answered (query : String) (reply : Except Fault String) (s : Session) (o : Outcome)
    (t : Session) : Prop where
  failed : ∀ f, stepsOfReply reply = .error f →
    o.error = some (.ofFault f) ∧ o.plan = [.search query (some fallbackReasoning)] ∧
      t.plan = o.plan ∧ o.view = ((Filter.search query).apply s.snapshot).map shown
  unsaved : ∀ earlier step later, stepsOfReply reply = .ok (earlier ++ step :: later) →
    step.isPersist = true →
    ∃ u w, run (earlier.forM dispatch) (s.extendPlan (earlier ++ step :: later)) = (.ok (), u) ∧
      run (dispatch step) u = (.ok (), w) ∧
      (Shelf.Unstored (Plan.criterion step u.plan) u.shelf →
        w.plan = u.plan ∧ w.events = u.events ++ [.message orderLostNotice] ∧
          orderLostNotice ∈ o.messages)

theorem apply_search (query : String) (reasoning : Option String) (source bs : List Bookmark) :
    Step.apply source bs (.search query reasoning) = (Filter.search query).apply bs := by
  have hknown : (Step.search query reasoning).known = some .searchBookmarks := by
    show Action.ofName? Action.searchBookmarks.name = _
    decide
  have htext : Parameter.text (.str query) "" = .ok query := by
    by_cases hq : query = "" <;> simp [Parameter.text, Json.isUnset, Json.text, hq]
  have hperform : Step.perform .searchBookmarks (Step.search query reasoning).parameters source bs =
      .ok ((Filter.search query).apply bs) := by
    have hget : (Step.search query reasoning).parameters.get "searchTerm" = .str query := rfl
    simp only [Step.perform, Step.filter?, hget, htext]
    rfl
  unfold Step.apply
  rw [hknown]
  simp only [hperform]

theorem view_failed (query : String) (f : Fault) (s : Session) :
    (failed query f s).view = ((Filter.search query).apply s.snapshot).map shown := by
  have harrange : Plan.arrange [.search query (some fallbackReasoning)] =
      [.search query (some fallbackReasoning)] := by
    simp [Plan.arrange, Step.search]
  show (Plan.run (Plan.arrange [.search query (some fallbackReasoning)]) s.snapshot).map shown = _
  rw [harrange]
  exact congrArg (List.map shown) (apply_search query _ s.snapshot s.snapshot)

theorem dispatch_unstored (hp : step.isPersist = true)
    (h : Shelf.Unstored (Plan.criterion step s.plan) s.shelf)
    (hrun : run (dispatch step) s = (.ok (), t)) :
    t.plan = s.plan ∧ t.events = s.events ++ [.message orderLostNotice] := by
  have hfails := (ends_iff.mp (ends_storeOrder_unstored h)).1
  have haside := (ends_iff.mp (ends_storeOrder (Plan.criterion step s.plan) s)).2
  rw [dispatch_of_isPersist hp, run_persistOrder] at hrun
  rcases hr : run (storeOrder (Plan.criterion step s.plan)) s with ⟨x, u⟩
  rw [hr] at hrun
  cases x with
  | ok bs => exact (hfails bs u hr).elim
  | error f =>
    obtain ⟨-, rfl⟩ := Prod.mk.inj hrun
    have hu : Aside s u := (haside f u hr).2
    rw [hu]
    exact ⟨rfl, rfl⟩

theorem answered_fail (hr : stepsOfReply reply = .error f) :
    ∃ o t, run (settle query reply) s = (.ok o, t) ∧ Answered query reply s o t := by
  unfold settle
  rw [hr]
  refine ⟨_, _, run_fail query f s, ?_, ?_⟩
  · intro g hg
    cases hr.symm.trans hg
    exact ⟨rfl, rfl, rfl, view_failed query f s⟩
  · intro earlier step later hsteps
    cases hr.symm.trans hsteps

theorem mem_messages (m : Message) (before mid after : List Event) :
    m ∈ ((before ++ mid ++ [Event.message m] ++ after).drop before.length).filterMap
      Event.message? := by
  simp only [List.append_assoc, List.drop_left]
  exact List.mem_filterMap.mpr ⟨.message m, by simp, rfl⟩

theorem answered_apply (hs : Readable s) (hr : stepsOfReply reply = .ok steps) :
    ∃ o t, run (settle query reply) s = (.ok o, t) ∧ Answered query reply s o t := by
  have hextended := hs.extendPlan steps
  obtain ⟨t, hsteps, -, -⟩ := run_forM_returns hextended steps
  have happly := run_apply query steps s
  rw [hsteps] at happly
  unfold settle
  rw [hr]
  refine ⟨_, t, happly, ?_, ?_⟩
  · intro f hf
    cases hr.symm.trans hf
  · intro earlier step later hsplit hp
    cases hr.symm.trans hsplit
    obtain ⟨u, hearlier, hu, hbefore⟩ := run_forM_returns hextended earlier
    obtain ⟨w, hstep, hw⟩ := run_dispatch_returns hu step
    obtain ⟨t', hlater, -, hafter⟩ := run_forM_returns hw later
    refine ⟨u, w, hearlier, hstep, fun h => ?_⟩
    obtain ⟨hplan, hevents⟩ := dispatch_unstored hp h hstep
    refine ⟨hplan, hevents, ?_⟩
    -- cut at this step, the run ends where it ends as a whole
    have hlast : t' = t := by
      rw [run_forM_append hearlier, run_forM_cons, hstep] at hsteps
      exact congrArg Prod.snd (hlater.symm.trans hsteps)
    obtain ⟨mid, hmid⟩ := hbefore
    obtain ⟨rest, hrest⟩ := hafter
    rw [hlast, hevents, ← hmid, extendPlan_eq] at hrest
    show orderLostNotice ∈ (t.events.drop s.events.length).filterMap Event.message?
    rw [← hrest]
    exact mem_messages orderLostNotice s.events mid rest

end Answering

/-- Whatever the model replies and whichever calls of the shelf fail, a request returns, whether
its reply comes at once or later; and what failed is told, as `Answered` says. -/
theorem failures_are_answered {v : List Bookmark} (h : Course v s)
    (hitems : ∀ b ∈ s.shelf.items, b.Keyed) (hseen : ∀ b ∈ s.snapshot, b.Keyed)
    (query : String) (reply : Except Fault String) :
    (∃ o t, run (submit query reply) s = (.ok o, t) ∧
      (Text.blank query = false → Answered query reply (s.begin query).2 o t)) ∧
      ∀ number, ∃ o t, run (finish number query reply) s = (.ok o, t) ∧
        (s.request = number → Answered query reply s o t) := by
  have hsettle : ∀ {u}, Readable u → ∃ o t, run (settle query reply) u = (.ok o, t) ∧
      Answered query reply u o t := by
    intro u hu
    cases hr : stepsOfReply reply with
    | error f => exact answered_fail hr
    | ok steps => exact answered_apply hu hr
  have hs : Readable s := ⟨h.sane.1, hitems, hseen⟩
  refine ⟨?_, fun number => ?_⟩
  · cases hb : Text.blank query with
    | true => exact ⟨_, s, run_submit_blank hb reply, by simp⟩
    | false =>
      have hbegin : Readable (s.begin query).2 := by
        rw [begin_filled hb]
        exact hs.same rfl rfl
      obtain ⟨o, t, hrun, ho⟩ := hsettle hbegin
      exact ⟨o, t, (run_submit_filled hb reply).trans hrun, fun _ => ho⟩
  · by_cases hn : s.request = number
    · obtain ⟨o, t, hrun, ho⟩ := hsettle hs
      exact ⟨o, t, (run_finish_newest hn query reply).trans hrun, fun _ => ho⟩
    · refine ⟨{ s.outcome query with stale := true }, s, ?_, fun hn' => (hn hn').elim⟩
      unfold finish
      simp only [run, run_bind, run_get, ne_eq, hn, not_false_eq_true, if_true, run_pure]

section CutOff

def sortAndKeep : Except Fault String := .ok
  "[\x7b\"action\": \"sortBookmarks\"\x7d, \x7b\"action\": \"reorder\"\x7d]"

/-- The shelf gives the collection once more, and not again. -/
def cutOff : Call → List (Option Fault)
  | .list => [none, some (.foreign .timeout "TimeoutError" "no answer")]
  | _ => []

def twinCut : Session := { twinSeen with shelf := { twinSeen.shelf with outages := cutOff } }

theorem twinCut_course : Course [] twinCut :=
  twinSeen_course.surroundings twinSeen.shelf.disk cutOff

theorem twinCut_answered :
    (∀ b ∈ twinCut.shelf.items, b.Keyed) ∧ (∀ b ∈ twinCut.snapshot, b.Keyed) ∧
    (run (submit "keep" sortAndKeep) twinCut).2.plan.actions = ["sortBookmarks", "reorder"] ∧
    (run (submit "keep" sortAndKeep) twinCut).2.events = [.message orderLostNotice] ∧
    (∃ o t, run (submit "keep" sortAndKeep) twinCut = (.ok o, t) ∧
      (Text.blank "keep" = false →
        Answered "keep" sortAndKeep (twinCut.begin "keep").2 o t)) ∧
    ∀ number, ∃ o t, run (finish number "keep" sortAndKeep) twinCut = (.ok o, t) ∧
      (twinCut.request = number → Answered "keep" sortAndKeep twinCut o t) := by
  have hitems : ∀ b ∈ twinCut.shelf.items, b.Keyed := by decide +kernel
  have hseen : ∀ b ∈ twinCut.snapshot, b.Keyed := by decide +kernel
  exact ⟨hitems, hseen, by decide +kernel, by decide +kernel,
    failures_are_answered twinCut_course hitems hseen "keep" sortAndKeep⟩

end CutOff

end Session

end LinkShelf

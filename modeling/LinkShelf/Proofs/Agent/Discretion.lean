import LinkShelf.Proofs.Agent.Failure
import LinkShelf.Proofs.Store.Alike
/-!
What the bookmarks say stays with the agent. The model is told the requests and nothing else, and
neither the plan nor the criteria by which orders are stored depend on what is on the shelf: two
sessions that differ in their bookmarks alone go the same way, whatever a model replies and
whichever calls fail.
-/
namespace LinkShelf.Session

open LinkShelf.Act
open LinkShelf.Shelf (BothTextual)

variable {s t : Session} {α β : Type} {V : α → β → Prop} {E : Fault → Prop}

/-- Two sessions that differ in the bookmarks that are on their shelves and in those that they have
seen; so may all that the user was told, and what is pending. -/
structure Alike (s t : Session) : Prop where
  shelf : Shelf.Alike s.shelf t.shelf
  seen : BothTextual s.snapshot t.snapshot
  plan : t.plan = s.plan
  error : t.error = s.error
  request : t.request = s.request
  stacking : t.stacking = s.stacking

section Shelves

theorem textual_withShelf {u : Shelf} (hs : AllTextual s.snapshot) (hu : u.Textual) :
    AllTextual (s.withShelf u).snapshot := by
  show AllTextual ((lastHeard (u.notices.drop s.shelf.notices.length)).getD s.snapshot)
  cases h : lastHeard (u.notices.drop s.shelf.notices.length) with
  | none => exact hs
  | some bs =>
    obtain ⟨n, hn, rfl⟩ := mem_of_lastHeard h
    exact hu.notices n (List.mem_of_mem_drop hn)

theorem Alike.withShelf {u v : Shelf} (h : Alike s t) (huv : Shelf.Alike u v) :
    Alike (s.withShelf u) (t.withShelf v) :=
  ⟨huv, ⟨textual_withShelf h.seen.1 huv.left, textual_withShelf h.seen.2 huv.right⟩, h.plan,
    h.error, h.request, h.stacking⟩

theorem paired_onShelf {act : Shelf.Act α} {act' : Shelf.Act β}
    (h : Paired Shelf.Alike V E act act') : Paired Alike V E (onShelf act) (onShelf act') := by
  intro s t hst
  rcases h _ _ hst.shelf with ⟨a, b, u, v, hu, hv, hab, huv⟩ | ⟨f, u, v, hu, hv, hf, huv⟩
  · exact .inl ⟨a, b, _, _, run_onShelf hu, run_onShelf hv, hab, hst.withShelf huv⟩
  · exact .inr ⟨f, _, _, run_onShelf hu, run_onShelf hv, hf, hst.withShelf huv⟩

theorem paired_withSnapshot {bs cs : List Bookmark} (h : BothTextual bs cs) :
    Paired Alike Eq E (modify (withSnapshot bs)) (modify (withSnapshot cs)) :=
  paired_modify fun _ _ hst => ⟨hst.shelf, h, hst.plan, hst.error, hst.request, hst.stacking⟩

theorem paired_reload : Paired Alike BothTextual (fun f => f.isStore = true) reload reload := by
  refine (paired_onShelf Shelf.paired_list).tryCatch fun f _ => paired_get_bind fun s t hst => ?_
  have hfault : t.shelf.fault .read "Failed to reload bookmarks" (some f) =
      s.shelf.fault .read "Failed to reload bookmarks" (some f) := by
    unfold Shelf.fault
    rw [hst.shelf.name]
  rw [hfault]
  refine paired_throw ?_
  split
  · assumption
  · rfl

end Shelves

section Opening

variable {a b : Shelf} {bs cs : List Bookmark}

/-- Two sessions newly opened on shelves of the same make, whatever has been put on these. -/
theorem alike_opened (h : Shelf.Alike a b) (hbs : BothTextual bs cs) (stacking : Bool) :
    Alike { shelf := (Shelf.run (Shelf.fill bs) a).2, stacking }
      { shelf := (Shelf.run (Shelf.fill cs) b).2, stacking } :=
  ⟨h.filled hbs, ⟨nofun, nofun⟩, rfl, rfl, rfl, rfl⟩

theorem textual_attach (h : s.shelf.Textual) : s.attach.shelf.Textual := by
  unfold attach
  split
  · exact h
  · exact ⟨h.medium, h.items, h.notices⟩

/-- Either session may hear of changes to its shelf. -/
theorem Alike.attach (h : Alike s t) : Alike s.attach t.attach := by
  have hrest : ∀ u : Session, u.attach = { u with
      attached := u.attach.attached
      shelf := { u.shelf with listeners := u.attach.shelf.listeners } } := by
    intro u
    unfold Session.attach
    split
    · rfl
    · rfl
  have hs := textual_attach h.shelf.left
  have ht := textual_attach h.shelf.right
  rw [hrest s] at hs ⊢
  rw [hrest t] at ht ⊢
  exact ⟨⟨h.shelf.name, h.shelf.reorders, h.shelf.outages, hs, ht⟩, h.seen, h.plan, h.error,
    h.request, h.stacking⟩

theorem paired_refresh : Paired Alike (fun _ _ => True) (fun _ => True) refresh refresh := by
  refine (paired_onShelf Shelf.paired_list).bind fun _ _ hbs => ?_
  exact (paired_withSnapshot hbs).bind fun _ _ _ =>
    paired_get_bind fun _ _ _ => paired_pure trivial

end Opening

section Steps

/-- What the user is told, what is recorded and what is pending need not be the same. -/
theorem paired_told {g g' : Session → Session} (h : ∀ s, g s = { s with
      history := (g s).history, events := (g s).events, pending := (g s).pending })
    (h' : ∀ s, g' s = { s with
      history := (g' s).history, events := (g' s).events, pending := (g' s).pending }) :
    Paired Alike Eq E (modify g) (modify g') := by
  refine paired_modify fun s t hst => ?_
  rw [h s, h' t]
  exact ⟨hst.shelf, hst.seen, hst.plan, hst.error, hst.request, hst.stacking⟩

theorem paired_storeOrder (c : Criterion) :
    Paired Alike BothTextual (fun f => f.isStore = true) (storeOrder c) (storeOrder c) := by
  have hsave := (paired_onShelf (Shelf.paired_saveOrder c)).mono (fun _ _ h => h)
    fun _ => Fault.isStore_of_isStoreWrite
  exact hsave.discard.bind fun _ _ _ => paired_reload

/-- Both orders are stored or both are not, and the plan goes by that alone. -/
theorem paired_persistOrder (step : Step) :
    Paired Alike Eq (fun _ => False) (persistOrder step) (persistOrder step) := by
  intro s t hst
  have hs := run_persistOrder step s
  have ht := run_persistOrder step t
  rw [hst.plan] at ht
  rw [← run, hs, ← run, ht]
  rcases paired_storeOrder (Plan.criterion step s.plan) s t hst with
    ⟨bs, cs, u, v, hu, hv, hbs, huv⟩ | ⟨f, u, v, hu, hv, -, huv⟩
  · rw [run, run, hu, hv]
    exact .inl ⟨(), (), _, _, rfl, rfl, rfl, huv.shelf, hbs,
      congrArg Plan.withoutOrdering huv.plan, huv.error, huv.request, huv.stacking⟩
  · rw [run, run, hu, hv]
    exact .inl ⟨(), (), _, _, rfl, rfl, rfl, huv.shelf, huv.seen, huv.plan, huv.error,
      huv.request, huv.stacking⟩

theorem textual_view (h : AllTextual s.snapshot) : ∀ b ∈ s.view, b.Keyed := by
  intro b hb
  obtain ⟨c, hc, rfl⟩ := List.mem_map.mp hb
  have htext := h c ((Plan.run_subperm _ s.snapshot).subset hc)
  exact ⟨htext.title, htext.url⟩

/-- Looking for duplicates changes nothing but what is pending and what the user is told. -/
theorem run_stageDuplicates (h : AllTextual s.snapshot) : ∃ pending events,
    run stageDuplicates s = (.ok (), { s with pending, events }) := by
  obtain ⟨ids, hids⟩ := Bookmark.duplicatesAfter_keyed [] (textual_view h)
  have hduplicates : Bookmark.duplicates s.view = .ok ids := hids
  unfold stageDuplicates
  simp only [run, run_bind, run_get, hduplicates, run_lift]
  cases ids with
  | nil => exact ⟨s.pending, _, rfl⟩
  | cons id ids => exact ⟨id :: ids, _, rfl⟩

/-- There may be duplicates in one view and none in the other. -/
theorem paired_stageDuplicates :
    Paired Alike Eq (fun _ => False) stageDuplicates stageDuplicates := by
  intro s t hst
  obtain ⟨_, _, hs⟩ := run_stageDuplicates hst.seen.1
  obtain ⟨_, _, ht⟩ := run_stageDuplicates hst.seen.2
  exact .inl ⟨(), (), _, _, hs, ht, rfl,
    ⟨hst.shelf, hst.seen, hst.plan, hst.error, hst.request, hst.stacking⟩⟩

theorem paired_dispatch (step : Step) :
    Paired Alike Eq (fun _ => False) (dispatch step) (dispatch step) := by
  unfold dispatch
  cases step.known with
  | none => exact paired_pure rfl
  | some a =>
    cases a with
    | help | importBookmarks | exportBookmarks => exact paired_told (fun _ => rfl) fun _ => rfl
    | removeDuplicates => exact paired_stageDuplicates
    | reorder | reorderAscending | reorderDescending | persistSortedOrder =>
      exact paired_persistOrder step
    | _ => exact paired_pure rfl

end Steps

section Requests

/-- The same steps are answered. -/
def SameSteps (o p : Outcome) : Prop := p.steps = o.steps

theorem Alike.extendPlan (h : Alike s t) (steps : Plan) :
    Alike (s.extendPlan steps) (t.extendPlan steps) := by
  have hplan : (t.extendPlan steps).plan = (s.extendPlan steps).plan := by
    unfold Session.extendPlan
    rw [h.stacking]
    cases s.stacking with
    | true => simp only [if_true, stackPlan, replacePlan, h.plan]
    | false => rfl
  rw [extendPlan_eq s, extendPlan_eq t]
  exact ⟨h.shelf, h.seen, hplan, rfl, h.request, h.stacking⟩

theorem paired_settle (query : String) (reply : Except Fault String) :
    Paired Alike SameSteps (fun _ => False) (settle query reply) (settle query reply) := by
  unfold settle
  cases stepsOfReply reply with
  | error f =>
    have hfallBack : Paired Alike Eq (fun _ => False)
        (modify (fallBack query (Report.ofFault f).message))
        (modify (fallBack query (Report.ofFault f).message)) :=
      paired_modify fun _ _ h => ⟨h.shelf, h.seen, rfl, rfl, h.request, h.stacking⟩
    refine (paired_told (fun _ => rfl) fun _ => rfl).bind fun _ _ _ => hfallBack.bind fun _ _ _ =>
      (paired_told (fun _ => rfl) fun _ => rfl).bind fun _ _ _ => paired_get_bind fun _ _ h => ?_
    exact paired_pure h.plan
  | ok steps =>
    refine paired_get_bind fun s t hst => ?_
    refine (paired_modify fun _ _ h => h.extendPlan steps).bind fun _ _ _ =>
      (paired_forM paired_dispatch steps).bind fun _ _ _ => paired_get_bind fun _ _ _ => ?_
    exact paired_pure rfl

theorem Alike.begin (h : Alike s t) (query : String) :
    Alike (s.begin query).2 (t.begin query).2 := by
  cases hb : Text.blank query with
  | true =>
    rw [begin_blank hb, begin_blank hb]
    exact h
  | false =>
    rw [begin_filled hb, begin_filled hb]
    exact ⟨h.shelf, h.seen, h.plan, h.error, congrArg (· + 1) h.request, h.stacking⟩

/-- A request returns, and the same steps are carried out whatever is on the shelf. -/
theorem paired_submit (query : String) (reply : Except Fault String) :
    Paired Alike SameSteps (fun _ => False) (submit query reply) (submit query reply) := by
  intro s t hst
  cases hb : Text.blank query with
  | true =>
    exact .inl ⟨_, _, s, t, run_submit_blank hb reply, run_submit_blank hb reply, rfl, hst⟩
  | false =>
    have hs := run_submit_filled (s := s) hb reply
    have ht := run_submit_filled (s := t) hb reply
    rw [← run, hs, ← run, ht]
    exact paired_settle query reply _ _ (hst.begin query)

end Requests

section Talking

/-- The criteria by which the steps of a plan have the collection sorted, one after the other. -/
def criteria : Plan → Session → List Criterion
  | [], _ => []
  | step :: steps, s =>
    (if step.isPersist then [Plan.criterion step s.plan] else []) ++
      match run (dispatch step) s with
      | (.ok _, t) => criteria steps t
      | (.error _, _) => []

/-- The criteria to which a request and its reply come. -/
def criteriaOf (query : String) (reply : Except Fault String) (s : Session) : List Criterion :=
  if Text.blank query then []
  else match stepsOfReply reply with
    | .error _ => []
    | .ok steps => criteria steps ((s.begin query).2.extendPlan steps)

/-- What can be told of a session after a request without looking at a bookmark. -/
structure Turn where
  /-- All prompts sent so far, the newest one last. -/
  prompts : List String
  /-- The steps that were applied, if the request returned. -/
  steps : Except Fault Plan
  criteria : List Criterion
  plan : Plan
  error : Option Step

/-- The prompts sent when a request is made; a blank one sends none. -/
def prompted (query : String) (sent : List String) : List String :=
  if Text.blank query then sent else sent ++ [Prompt.ofRequest query]

/-- Requests to a model, one after the other. What the model replies may depend on all prompts sent
so far. -/
def converse (model : List String → Except Fault String) :
    List String → List String → Session → List Turn
  | [], _, _ => []
  | query :: queries, sent, s =>
    let prompts := prompted query sent
    let reply := model prompts
    let after := run (submit query reply) s
    { prompts, steps := after.1.map Outcome.steps, criteria := criteriaOf query reply s
      plan := after.2.plan, error := after.2.error } :: converse model queries prompts after.2

theorem Alike.criteria (h : Alike s t) (steps : Plan) :
    Session.criteria steps t = Session.criteria steps s := by
  induction steps generalizing s t with
  | nil => rfl
  | cons step steps ih =>
    obtain ⟨_, _, u, v, hu, hv, -, huv⟩ := (paired_dispatch step).returns h
    rw [Session.criteria, Session.criteria, run, run, hu, hv, h.plan]
    simp only [ih huv]

theorem Alike.criteriaOf (h : Alike s t) (query : String) (reply : Except Fault String) :
    Session.criteriaOf query reply t = Session.criteriaOf query reply s := by
  unfold Session.criteriaOf
  split
  · rfl
  · split
    · rfl
    · exact ((h.begin query).extendPlan _).criteria _

/-- Whatever the model replies, what two sessions are asked comes to the same if they differ in
their bookmarks alone: the same prompts are sent, the same steps are applied, orders are stored by
the same criteria, and plan and error are the same after every request. No request fails. -/
theorem contents_never_steer (h : Alike s t) (model : List String → Except Fault String)
    (queries sent : List String) :
    converse model queries sent t = converse model queries sent s ∧
      ∀ turn ∈ converse model queries sent s, ∃ steps, turn.steps = .ok steps := by
  induction queries generalizing s t sent with
  | nil => exact ⟨rfl, nofun⟩
  | cons query queries ih =>
    let reply := model (prompted query sent)
    obtain ⟨o, p, u, v, hu, hv, hsteps, huv⟩ := (paired_submit query reply).returns h
    obtain ⟨hsame, hreturn⟩ := ih huv (prompted query sent)
    have hcriteria := h.criteriaOf query reply
    have hs : converse model (query :: queries) sent s =
        { prompts := prompted query sent, steps := .ok o.steps
          criteria := Session.criteriaOf query reply s, plan := u.plan, error := u.error } ::
            converse model queries (prompted query sent) u := by
      rw [converse, run, hu]
      rfl
    have ht : converse model (query :: queries) sent t =
        { prompts := prompted query sent, steps := .ok p.steps
          criteria := Session.criteriaOf query reply t, plan := v.plan, error := v.error } ::
            converse model queries (prompted query sent) v := by
      rw [converse, run, hv]
      rfl
    rw [hs, ht]
    refine ⟨?_, fun turn hturn => ?_⟩
    · rw [hsame, hcriteria, huv.plan, huv.error, hsteps]
    · rcases List.mem_cons.mp hturn with rfl | hturn
      · exact ⟨_, rfl⟩
      · exact hreturn turn hturn

section Shelfmates

/-- Three bookmarks, no two of them alike. -/
def various : List Bookmark :=
  [{ title := .str "Iris", url := .str "i", rating := 5 },
    { title := .str "Agda", url := .str "z", createdAt := .str "2020-01-01" },
    { id := some "m", title := .str "", url := .str "m" }]

/-- The second order is not stored. -/
def secondOrder : Call → List (Option Fault)
  | .reorder => [none, some (.foreign .timeout "TimeoutError" "no answer")]
  | _ => []

/-- A session that has seen its shelf and hears of it, put up with some bookmarks. -/
@[irreducible] def openedOver (bs : List Bookmark) : Session :=
  let empty : Shelf := { supply := Shelf.unary, outages := secondOrder }
  let new : Session := { shelf := (Shelf.run (Shelf.fill bs) empty).2 }
  (run refresh new.attach).2

/-- Has the collection sorted at first, then looked through for duplicates and sorted again; a third
prompt is too much. -/
def tiring (prompts : List String) : Except Fault String :=
  match prompts.length with
  | 1 => .ok ("[\x7b\"action\": \"sortBookmarks\", \"sortBy\": \"url\"\x7d, " ++
      "\x7b\"action\": \"reorder\"\x7d]")
  | 2 => .ok ("[\x7b\"action\": \"removeDuplicates\"\x7d, " ++
      "\x7b\"action\": \"reorderDescending\"\x7d]")
  | _ => .error (.model .rateLimit "too much" none (some 429))

theorem alike_openedOver {bs cs : List Bookmark} (hbs : AllTextual bs) (hcs : AllTextual cs) :
    Alike (openedOver bs) (openedOver cs) := by
  have hempty : Shelf.Alike { supply := Shelf.unary, outages := secondOrder }
      { supply := Shelf.unary, outages := secondOrder } :=
    ⟨rfl, rfl, rfl, ⟨rfl, nofun, nofun⟩, ⟨rfl, nofun, nofun⟩⟩
  unfold openedOver
  exact paired_refresh.state (alike_opened hempty ⟨hbs, hcs⟩ true).attach

theorem twins_textual : AllTextual twins := by
  intro b hb
  simp only [twins, List.mem_cons, List.not_mem_nil, or_false] at hb
  rcases hb with rfl | rfl <;> exact ⟨⟨_, rfl⟩, ⟨_, rfl⟩, .inl rfl, .inl rfl⟩

theorem various_textual : AllTextual various := by
  intro b hb
  simp only [various, List.mem_cons, List.not_mem_nil, or_false] at hb
  rcases hb with rfl | rfl | rfl
  · exact ⟨⟨_, rfl⟩, ⟨_, rfl⟩, .inl rfl, .inl rfl⟩
  · exact ⟨⟨_, rfl⟩, ⟨_, rfl⟩, .inr ⟨_, rfl⟩, .inl rfl⟩
  · exact ⟨⟨_, rfl⟩, ⟨_, rfl⟩, .inl rfl, .inl rfl⟩

/-- The one has duplicates, the other has none. -/
theorem twins_steer_like_others :
    Alike (openedOver twins) (openedOver various) ∧
      (converse tiring ["sort", " ", "tidy", "more"] [] (openedOver twins)).map
          (fun turn => turn.plan.actions) =
        [[], [], ["removeDuplicates", "reorderDescending"], ["searchBookmarks"]] ∧
      converse tiring ["sort", " ", "tidy", "more"] [] (openedOver various) =
        converse tiring ["sort", " ", "tidy", "more"] [] (openedOver twins) ∧
      ∀ turn ∈ converse tiring ["sort", " ", "tidy", "more"] [] (openedOver twins),
        ∃ steps, turn.steps = .ok steps := by
  have halike := alike_openedOver twins_textual various_textual
  exact ⟨halike, by decide +kernel, contents_never_steer halike tiring _ _⟩

end Shelfmates

end Talking

end LinkShelf.Session

import LinkShelf.Proofs.Agent.Course
import LinkShelf.Proofs.Agent.Overtaking
import LinkShelf.Proofs.Agent.Storing
/-!
The plan of a session, read off what was done with it. It holds the steps of the requests since the
last one that started it afresh, without the ordering ones among those that were there when an
order was stored.
-/
namespace LinkShelf.Session

open LinkShelf.Act

variable {s t : Session} {query : String} {reply : Except Fault String} {stacking : Bool}

/-- What a session is remembered by: its resets, its requests with what came of each, and the
orders that they stored. -/
inductive Entry where
  | reset
  | failed (query : String) (f : Fault)
  | applied (steps : Plan)
  | stored

namespace Entry

def isStored : Entry → Bool
  | .stored => true
  | _ => false

/-- Whether the plan starts afresh here. -/
def isBoundary (stacking : Bool) : Entry → Bool
  | .reset | .failed .. => true
  | .applied steps => !stacking || Plan.containsReset steps
  | .stored => false

/-- What comes into the plan. A request that failed is a search for its own words. -/
def steps : Entry → Plan
  | .failed query _ => [.search query (some fallbackReasoning)]
  | .applied steps => steps
  | .reset | .stored => []

end Entry

variable {e : Entry} {es : List Entry} {step : Step} {steps : Plan}

/-- What has been done since the plan last started afresh. -/
def sinceBoundary (stacking : Bool) : List Entry → List Entry
  | [] => []
  | e :: es => if es.any (·.isBoundary stacking) then sinceBoundary stacking es else e :: es

/-- The steps of some entries, oldest first; a stored order does away with the ordering steps
before it. -/
def stepsOf : List Entry → Plan
  | [] => []
  | e :: es => (if es.any (·.isStored) then Plan.withoutOrdering e.steps else e.steps) ++ stepsOf es

def planOf (stacking : Bool) (es : List Entry) : Plan := stepsOf (sinceBoundary stacking es)

section OneMore

theorem withoutOrdering_append (p q : Plan) :
    Plan.withoutOrdering (p ++ q) = Plan.withoutOrdering p ++ Plan.withoutOrdering q :=
  List.filter_append ..

theorem withoutOrdering_twice (p : Plan) :
    Plan.withoutOrdering (Plan.withoutOrdering p) = Plan.withoutOrdering p := by
  simp [Plan.withoutOrdering]

theorem sinceBoundary_snoc (es : List Entry) (e : Entry) : sinceBoundary stacking (es ++ [e]) =
    if e.isBoundary stacking then [e] else sinceBoundary stacking es ++ [e] := by
  induction es with
  | nil => simp [sinceBoundary]
  | cons a es ih =>
    rw [List.cons_append, sinceBoundary, sinceBoundary, List.any_append, ih]
    cases he : e.isBoundary stacking with
    | true => simp [he]
    | false =>
      cases es.any (·.isBoundary stacking) with
      | true => simp
      | false => simp [he]

theorem stepsOf_snoc (es : List Entry) (e : Entry) : stepsOf (es ++ [e]) =
    (if e.isStored then Plan.withoutOrdering (stepsOf es) else stepsOf es) ++ e.steps := by
  induction es with
  | nil => simp [stepsOf, Plan.withoutOrdering]
  | cons a es ih =>
    rw [List.cons_append, stepsOf, stepsOf, List.any_append, ih]
    cases he : e.isStored with
    | false => simp [he]
    | true =>
      -- what this order takes from the first entry, an earlier one may have taken already
      have hlast : (es.any (·.isStored) || [e].any (·.isStored)) = true := by simp [he]
      rw [hlast, if_pos rfl, if_pos rfl, withoutOrdering_append]
      cases es.any (·.isStored) with
      | true => simp [withoutOrdering_twice]
      | false => simp

theorem planOf_boundary (es : List Entry) (e : Entry) (h : e.isBoundary stacking = true) :
    planOf stacking (es ++ [e]) = e.steps := by
  rw [planOf, sinceBoundary_snoc, if_pos h, stepsOf, stepsOf, List.append_nil]
  rfl

theorem planOf_applied (h : Entry.isBoundary stacking (.applied steps) = false) :
    planOf stacking (es ++ [.applied steps]) = planOf stacking es ++ steps := by
  rw [planOf, sinceBoundary_snoc, if_neg (by simp [h]), stepsOf_snoc]
  rfl

theorem planOf_stored :
    planOf stacking (es ++ [.stored]) = Plan.withoutOrdering (planOf stacking es) := by
  rw [planOf, sinceBoundary_snoc, if_neg (by simp [Entry.isBoundary]), stepsOf_snoc]
  exact List.append_nil _

end OneMore

section Recording

/-- The orders that the steps of a reply store, as far as the steps are carried out. -/
def storedBy : Plan → Session → List Entry
  | [], _ => []
  | step :: steps, s =>
    (if stores step s then [.stored] else []) ++
      match run (dispatch step) s with
      | (.ok _, t) => storedBy steps t
      | (.error _, _) => []

/-- What a request and its reply are remembered by. -/
def entries (query : String) (reply : Except Fault String) (s : Session) : List Entry :=
  if Text.blank query then []
  else match stepsOfReply reply with
    | .error f => [.failed query f]
    | .ok steps => .applied steps :: storedBy steps ((s.begin query).2.extendPlan steps)

/-- What a move is remembered by; most of them leave the plan alone. -/
def Move.entries (s : Session) : Move → List Entry
  | .submit query reply => Session.entries query reply s
  | .reset => [.reset]
  | _ => []

/-- A session with what has been done with it from its beginning, as long as no reply comes but at
once. The shelf may be used by others as well. -/
inductive Recorded : List Entry → Session → Prop where
  | new {s : Session} (hplan : s.plan = []) (herror : s.error = none) : Recorded [] s
  | move {es : List Entry} {s t : Session} {r : Except Fault Unit} (h : Recorded es s) (m : Move)
      (hm : ∀ number query reply, m ≠ .answer number query reply) (hrun : run m.act s = (r, t)) :
      Recorded (es ++ m.entries s) t
  | aside {es : List Entry} {s t : Session} (h : Recorded es s) (ht : Aside s t) : Recorded es t

end Recording

section Quiet

/-- The plan and its error are what they were. -/
structure Besides (s t : Session) : Prop where
  plan : t.plan = s.plan
  error : t.error = s.error
  stacking : t.stacking = s.stacking

theorem Aside.besides (h : Aside s t) : Besides s t := by
  rw [h]
  exact ⟨rfl, rfl, rfl⟩

theorem ends_deletePending_besides (ids : List String) (s : Session) :
    Ends (deletePending ids) s (fun _ t => Besides s t) (fun _ t => Besides s t) := by
  unfold deletePending
  refine ((aside_onShelf _ s).mono (fun _ _ h => h) fun _ _ h => h.besides).bind fun _ t ht => ?_
  refine ((aside_onShelf _ t).mono (fun _ _ h => h) fun _ _ h => (ht.trans h).besides).bind ?_
  intro bs u hu
  rw [ends_modify_bind, ends_modify_bind, ends_modify_bind, ends_pure]
  have hbesides := (ht.trans hu).besides
  exact ⟨hbesides.plan, hbesides.error, hbesides.stacking⟩

theorem ends_confirm_besides (s : Session) :
    Ends confirm s (fun _ t => Besides s t) (fun _ t => Besides s t) := by
  unfold confirm
  rw [ends_get_bind]
  cases hp : s.pending.isEmpty with
  | true =>
    simp only [hp, if_true, ends_pure]
    exact ⟨rfl, rfl, rfl⟩
  | false =>
    simp only [hp, Bool.false_eq_true, if_false]
    refine (ends_deletePending_besides _ s).tryCatch fun f t ht => ?_
    rw [ends_modify_bind]
    cases hf : f.isStore with
    | true => exact ⟨ht.plan, ht.error, ht.stacking⟩
    | false => exact ⟨ht.plan, ht.error, ht.stacking⟩

theorem besides_begin (s : Session) (query : String) : Besides s (s.begin query).2 := by
  unfold begin
  split
  · exact ⟨rfl, rfl, rfl⟩
  · exact ⟨rfl, rfl, rfl⟩

/-- A move that neither replies to a request nor resets the plan. -/
def Move.isQuiet : Move → Bool
  | .submit .. | .answer .. | .reset => false
  | _ => true

theorem ends_quiet (m : Move) (hm : m.isQuiet = true) (s : Session) :
    Ends m.act s (fun _ t => Besides s t) (fun _ t => Besides s t) := by
  cases m with
  | submit | answer | reset => cases hm
  | ask query => exact besides_begin s query
  | confirm => exact (ends_confirm_besides s).bind fun _ _ h => h
  | cancel => exact ⟨rfl, rfl, rfl⟩
  | refresh =>
    have hrefresh : Ends refresh s (fun _ t => Besides s t) (fun _ t => Besides s t) := by
      refine ((aside_onShelf _ s).mono (fun _ _ h => h) fun _ _ h => h.besides).bind ?_
      intro bs t ht
      have hbesides := ht.besides
      rw [ends_modify_bind, ends_get_bind, ends_pure]
      exact ⟨hbesides.plan, hbesides.error, hbesides.stacking⟩
    exact hrefresh.bind fun _ _ h => h
  | attach =>
    rw [Move.act, ends_modify]
    unfold Session.attach
    split
    · exact ⟨rfl, rfl, rfl⟩
    · exact ⟨rfl, rfl, rfl⟩
  | detach =>
    rw [Move.act, ends_modify]
    unfold Session.detach
    split
    · exact ⟨rfl, rfl, rfl⟩
    · exact ⟨rfl, rfl, rfl⟩

theorem Move.entries_quiet {m : Move} (hm : m.isQuiet = true) (s : Session) :
    m.entries s = [] := by
  cases m with
  | submit | answer | reset => cases hm
  | _ => rfl

end Quiet

section Remembering

/-- The step that records a failure. -/
def Entry.failure? : Entry → Option Step
  | .failed _ f => some (.failure ("Failed to process request: " ++ f.message))
  | _ => none

/-- What holds of a session and what it is remembered by. -/
structure Remembered (es : List Entry) (s : Session) : Prop where
  plan : s.plan = planOf s.stacking es
  error : s.error = es.getLast?.bind Entry.failure?

theorem Remembered.stepped (h : Remembered es s) (hs : s.error = none) (ht : Stepped step s t) :
    Remembered (es ++ if stores step s then [.stored] else []) t := by
  have hplan := ht.plan
  have herror := ht.error
  cases hstores : stores step s with
  | true =>
    rw [hstores, if_pos rfl, h.plan] at hplan
    refine ⟨?_, ?_⟩
    · rw [hplan, ht.stacking]
      exact planOf_stored.symm
    · rw [herror, hs]
      simp [Entry.failure?]
  | false =>
    rw [hstores] at hplan
    refine ⟨?_, ?_⟩
    · simpa [ht.stacking] using hplan.trans h.plan
    · simpa using herror.trans h.error

theorem Remembered.dispatched (h : Remembered es s) (hs : s.error = none)
    {r : Except Fault PUnit} (hrun : run (steps.forM dispatch) s = (r, t)) :
    Remembered (es ++ storedBy steps s) t := by
  -- no step brings an error, so none is there while the last entry is an order that was stored
  induction steps generalizing es s with
  | nil =>
    obtain ⟨-, rfl⟩ := Prod.mk.inj ((run_forM_nil s).symm.trans hrun)
    simpa [storedBy] using h
  | cons step steps ih =>
    rw [run_forM_cons] at hrun
    rcases hstep : run (dispatch step) s with ⟨x, u⟩
    have hu := (stepped_dispatch step s).state hstep
    have hnext := h.stepped hs hu
    rw [storedBy, hstep, ← List.append_assoc]
    rw [hstep] at hrun
    cases x with
    | error f =>
      obtain ⟨-, rfl⟩ := Prod.mk.inj hrun
      simpa using hnext
    | ok a => exact ih hnext (hu.error.trans hs) hrun

theorem Remembered.failed (es : List Entry) (s : Session) (query : String) (f : Fault) :
    Remembered (es ++ [.failed query f]) (s.failed query f) := by
  refine ⟨(planOf_boundary es (.failed query f) rfl).symm, ?_⟩
  rw [List.getLast?_concat]
  rfl

theorem Remembered.extendPlan (h : Remembered es s) (steps : Plan) :
    Remembered (es ++ [.applied steps]) (s.extendPlan steps) := by
  have hlast : (es ++ [Entry.applied steps]).getLast?.bind Entry.failure? = none := by
    rw [List.getLast?_concat]
    rfl
  unfold Session.extendPlan
  cases hs : s.stacking with
  | false =>
    have hb : Entry.isBoundary s.stacking (.applied steps) = true := by simp [Entry.isBoundary, hs]
    exact ⟨(planOf_boundary es _ hb).symm, hlast.symm⟩
  | true =>
    refine ⟨?_, hlast.symm⟩
    show (if Plan.containsReset steps then steps else s.plan ++ steps) = planOf s.stacking _
    cases hc : Plan.containsReset steps with
    | true =>
      have hb : Entry.isBoundary s.stacking (.applied steps) = true := by
        simp [Entry.isBoundary, hc]
      exact (planOf_boundary es _ hb).symm
    | false =>
      have hb : Entry.isBoundary s.stacking (.applied steps) = false := by
        simp [Entry.isBoundary, hs, hc]
      rw [planOf_applied hb, ← h.plan]
      rfl

theorem Remembered.applied (h : Remembered es s) {r : Except Fault Outcome}
    (hrun : run (apply query steps) s = (r, t)) :
    Remembered (es ++ .applied steps :: storedBy steps (s.extendPlan steps)) t := by
  rw [run_apply] at hrun
  rcases hsteps : run (steps.forM dispatch) (s.extendPlan steps) with ⟨x, u⟩
  have herror : (s.extendPlan steps).error = none := by
    rw [extendPlan_eq]
    rfl
  have hu := (h.extendPlan steps).dispatched herror hsteps
  rw [List.append_assoc] at hu
  rw [hsteps] at hrun
  cases x with
  | ok _ =>
    obtain ⟨-, rfl⟩ := Prod.mk.inj hrun
    exact hu
  | error f =>
    obtain ⟨-, rfl⟩ := Prod.mk.inj hrun
    exact hu

theorem Remembered.settled (h : Remembered es s) {r : Except Fault Outcome}
    (hrun : run (settle query reply) s = (r, t)) :
    Remembered (es ++ match stepsOfReply reply with
      | .error f => [.failed query f]
      | .ok steps => .applied steps :: storedBy steps (s.extendPlan steps)) t := by
  unfold settle at hrun
  cases hr : stepsOfReply reply with
  | error f =>
    rw [hr] at hrun
    obtain ⟨-, rfl⟩ := Prod.mk.inj ((run_fail query f _).symm.trans hrun)
    exact .failed es _ query f
  | ok steps =>
    rw [hr] at hrun
    exact h.applied hrun

theorem Remembered.begun (h : Remembered es s) (query : String) :
    Remembered es (s.begin query).2 := by
  unfold begin
  split
  · exact h
  · exact ⟨h.plan, h.error⟩

theorem Remembered.submitted (h : Remembered es s) {r : Except Fault Outcome}
    (hrun : run (submit query reply) s = (r, t)) :
    Remembered (es ++ entries query reply s) t := by
  unfold entries
  cases hb : Text.blank query with
  | true =>
    obtain ⟨-, rfl⟩ := Prod.mk.inj ((run_submit_blank hb reply).symm.trans hrun)
    simpa using h
  | false =>
    rw [run_submit_filled hb] at hrun
    exact (h.begun query).settled hrun

theorem Remembered.besides (h : Remembered es s) (ht : Besides s t) : Remembered es t :=
  ⟨by rw [ht.plan, ht.stacking, h.plan], ht.error.trans h.error⟩

theorem Remembered.moved (h : Remembered es s) (m : Move)
    (hm : ∀ number query reply, m ≠ .answer number query reply) :
    Ends m.act s (fun _ t => Remembered (es ++ m.entries s) t)
      (fun _ t => Remembered (es ++ m.entries s) t) := by
  cases hq : m.isQuiet with
  | true =>
    rw [Move.entries_quiet hq, List.append_nil]
    exact (ends_quiet m hq s).mono (fun _ _ => h.besides) fun _ _ => h.besides
  | false =>
    cases m with
    | submit query reply =>
      have hsubmit : Ends (submit query reply) s
          (fun _ t => Remembered (es ++ entries query reply s) t)
          (fun _ t => Remembered (es ++ entries query reply s) t) :=
        ends_state.mpr (h.submitted rfl)
      exact hsubmit.bind fun _ _ ht => ht
    | answer number query reply => exact (hm number query reply rfl).elim
    | reset =>
      refine ⟨(planOf_boundary es .reset rfl).symm, ?_⟩
      show none = (es ++ [Entry.reset]).getLast?.bind Entry.failure?
      rw [List.getLast?_concat]
      rfl
    | _ => cases hq

theorem Recorded.remembered (h : Recorded es s) : Remembered es s := by
  induction h with
  | new hplan herror => exact ⟨hplan, herror⟩
  | move _ m hm hrun ih => exact (ih.moved m hm).state hrun
  | aside _ ht ih => exact ih.besides ht.besides

/-- The plan holds the steps of the requests since it last started afresh, oldest first; where an
order was stored, the ordering steps before it are gone. There is an error if and only if the last
that was done is a request that failed, and then the plan is the search for its words. -/
theorem plan_follows_history (h : Recorded es s) :
    s.plan = planOf s.stacking es ∧
      (∀ step, s.error = some step ↔ ∃ query f, es.getLast? = some (.failed query f) ∧
        step = .failure ("Failed to process request: " ++ f.message)) ∧
      ∀ query f, es.getLast? = some (.failed query f) →
        s.plan = [.search query (some fallbackReasoning)] := by
  have hr := h.remembered
  refine ⟨hr.plan, fun step => ?_, fun query f hlast => ?_⟩
  · rw [hr.error, Option.bind_eq_some_iff]
    constructor
    · rintro ⟨e, he, hstep⟩
      cases e with
      | failed query f => exact ⟨query, f, he, (Option.some.inj hstep).symm⟩
      | reset | applied | stored => cases hstep
    · rintro ⟨query, f, hlast, rfl⟩
      exact ⟨.failed query f, hlast, rfl⟩
  · obtain ⟨before, rfl⟩ := List.getLast?_eq_some_iff.mp hlast
    rw [hr.plan]
    exact planOf_boundary before _ rfl

end Remembering

section Kept

/-- A request to find bookmarks and to sort them, and one to keep that order. -/
def sortedReply : Except Fault String := .ok
  "[\x7b\"action\": \"searchBookmarks\"\x7d, \x7b\"action\": \"sortBookmarks\"\x7d]"

def keepReply : Except Fault String := .ok "[\x7b\"action\": \"reorder\"\x7d]"

@[irreducible] def twinSorted : Session := (run (Move.submit "sort" sortedReply).act twinSeen).2

@[irreducible] def twinKept : Session := (run (Move.submit "keep" keepReply).act twinSorted).2

def twinEntries : List Entry :=
  (Move.submit "sort" sortedReply).entries twinSeen ++
    (Move.submit "keep" keepReply).entries twinSorted

theorem twinKept_recorded : Recorded twinEntries twinKept := by
  have hnew : Recorded [] { shelf := twinShelf } := .new rfl rfl
  have hseen : Recorded [] twinSeen := by
    unfold twinSeen
    exact hnew.move .refresh nofun rfl
  have hsorted : Recorded ([] ++ (Move.submit "sort" sortedReply).entries twinSeen) twinSorted := by
    unfold twinSorted
    exact hseen.move (.submit "sort" sortedReply) nofun rfl
  rw [List.nil_append] at hsorted
  unfold twinKept
  exact hsorted.move (.submit "keep" keepReply) nofun rfl

/-- The step that sorts has gone from the plan with the one that stored the order. -/
theorem twinKept_follows_history : twinKept.plan.actions = ["searchBookmarks"] ∧
    (twinEntries.map Entry.isStored = [false, false, true]) ∧
    twinKept.plan = planOf twinKept.stacking twinEntries ∧
    (∀ step, twinKept.error = some step ↔
      ∃ query f, twinEntries.getLast? = some (.failed query f) ∧
        step = .failure ("Failed to process request: " ++ f.message)) ∧
    ∀ query f, twinEntries.getLast? = some (.failed query f) →
      twinKept.plan = [.search query (some fallbackReasoning)] :=
  ⟨by decide +kernel, by decide +kernel, plan_follows_history twinKept_recorded⟩

end Kept

end LinkShelf.Session

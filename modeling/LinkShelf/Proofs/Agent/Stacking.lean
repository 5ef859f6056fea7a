import LinkShelf.Proofs.Agent.History
import LinkShelf.Proofs.Plan.Stacked
/-!
Requests that are stacked run as one. The steps of each reply are arranged when it comes in, and
those of the plan whenever it is run; what is shown is nevertheless what the steps of all replies
show, put together as the replies name them and arranged once.
-/
namespace LinkShelf.Session

open LinkShelf.Act
open LinkShelf.Plan (arrange)

variable {s t : Session} {query : String} {reply : Except Fault String} {stacking : Bool}
  {e : Entry} {es before : List Entry} {steps : Plan} {replies : List Plan}

namespace Entry

/-- With the steps in the order of their priorities. -/
def arranged : Entry → Entry
  | .applied steps => .applied (arrange steps)
  | e => e

def Ranked (e : Entry) : Prop := ∀ s ∈ e.steps, s.Ranked

theorem isStored_arranged (e : Entry) : e.arranged.isStored = e.isStored := by
  cases e <;> rfl

theorem isBoundary_arranged (e : Entry) :
    e.arranged.isBoundary stacking = e.isBoundary stacking := by
  cases e with
  | applied steps =>
    simp only [arranged, isBoundary, Plan.containsReset_arrange]
  | reset | failed | stored => rfl

theorem steps_arranged (e : Entry) : e.arranged.steps = arrange e.steps := by
  cases e with
  | applied | reset | failed | stored => rfl

theorem Ranked.arranged (h : e.Ranked) : e.arranged.Ranked := by
  unfold Ranked
  rw [steps_arranged]
  exact Plan.ranked_arrange h

end Entry

section Arranging

theorem sinceBoundary_arranged (es : List Entry) :
    sinceBoundary stacking (es.map Entry.arranged) =
      (sinceBoundary stacking es).map Entry.arranged := by
  induction es with
  | nil => rfl
  | cons e es ih =>
    have hany : (es.map Entry.arranged).any (·.isBoundary stacking) =
        es.any (·.isBoundary stacking) := by
      simp only [List.any_map, Function.comp_def, Entry.isBoundary_arranged]
    rw [List.map_cons, sinceBoundary, sinceBoundary, hany, ih]
    split
    · rfl
    · rfl

theorem mem_sinceBoundary (h : e ∈ sinceBoundary stacking es) : e ∈ es := by
  induction es with
  | nil => exact h
  | cons a es ih =>
    rw [sinceBoundary] at h
    split at h
    · exact List.mem_cons_of_mem a (ih h)
    · exact h

theorem ranked_stepsOf (h : ∀ e ∈ es, e.Ranked) : ∀ x ∈ stepsOf es, x.Ranked := by
  induction es with
  | nil => simp [stepsOf]
  | cons e es ih =>
    have hfirst := h e (by simp)
    intro x hx
    rcases List.mem_append.mp hx with hx | hx
    · split at hx
      · exact hfirst x (List.mem_of_mem_filter hx)
      · exact hfirst x hx
    · exact ih (fun e he => h e (by simp [he])) x hx

theorem arrange_withoutOrdering (h : ∀ x ∈ steps, x.Ranked) :
    arrange (Plan.withoutOrdering steps) = Plan.withoutOrdering (arrange steps) :=
  Plan.arrange_filter h _

/-- Steps that are arranged with their reply are arranged no differently among the others. -/
theorem arrange_stepsOf (h : ∀ e ∈ es, e.Ranked) :
    arrange (stepsOf (es.map Entry.arranged)) = arrange (stepsOf es) := by
  induction es with
  | nil => rfl
  | cons e es ih =>
    have hfirst : ∀ x ∈ e.steps, x.Ranked := h e (by simp)
    have harranged : ∀ a ∈ (e :: es).map Entry.arranged, a.Ranked := by
      intro a ha
      obtain ⟨b, hb, rfl⟩ := List.mem_map.mp ha
      exact (h b hb).arranged
    have hany : (es.map Entry.arranged).any (·.isStored) = es.any (·.isStored) := by
      simp only [List.any_map, Function.comp_def, Entry.isStored_arranged]
    have hranked := ranked_stepsOf harranged
    rw [List.map_cons, stepsOf] at hranked ⊢
    refine Plan.arrange_append_congr hranked (ranked_stepsOf h) ?_
      (ih fun e he => h e (by simp [he]))
    rw [hany, Entry.steps_arranged]
    split
    · rw [arrange_withoutOrdering (Plan.ranked_arrange hfirst), Plan.arrange_arrange hfirst,
        arrange_withoutOrdering hfirst]
    · exact Plan.arrange_arrange hfirst

theorem arrange_planOf (h : ∀ e ∈ es, e.Ranked) :
    arrange (planOf stacking (es.map Entry.arranged)) = arrange (planOf stacking es) := by
  unfold planOf
  rw [sinceBoundary_arranged]
  exact arrange_stepsOf fun e he => h e (mem_sinceBoundary he)

end Arranging

section Telling

/-- The steps that a reply names, in the order in which it names them. -/
def named (reply : Except Fault String) : Except Fault Plan := do
  Reply.plan Reply.defaultDepth (← reply)

theorem stepsOfReply_eq (reply : Except Fault String) :
    stepsOfReply reply = (named reply).map arrange := by
  unfold stepsOfReply named
  cases reply with
  | error f => rfl
  | ok text =>
    show (do pure (arrange (← Reply.plan _ text))) = (Reply.plan _ text).map arrange
    cases Reply.plan Reply.defaultDepth text <;> rfl

theorem ranked_named (h : named reply = .ok steps) : ∀ x ∈ steps, x.Ranked := by
  obtain ⟨text, -, hplan⟩ := bind_eq_ok.mp h
  exact Reply.ranked_plan hplan

/-- What a reply is remembered by, with its steps as it names them. -/
def told (query : String) (reply : Except Fault String) (s : Session) : List Entry :=
  match named reply with
  | .error f => [.failed query f]
  | .ok steps => .applied steps :: storedBy (arrange steps) (s.extendPlan (arrange steps))

/-- What a move is remembered by. A reply that comes late is not. -/
def Move.told (s : Session) : Move → List Entry
  | .submit query reply =>
    if Text.blank query then [] else Session.told query reply (s.begin query).2
  | .answer number query reply => if s.request = number then Session.told query reply s else []
  | .reset => [.reset]
  | _ => []

/-- A session with what has been done with it from its beginning, replies that come late included.
The shelf may be used by others as well. -/
inductive Recounted : List Entry → Session → Prop where
  | new {s : Session} (hplan : s.plan = []) (herror : s.error = none) : Recounted [] s
  | move {es : List Entry} {s t : Session} {r : Except Fault Unit} (h : Recounted es s) (m : Move)
      (hrun : run m.act s = (r, t)) : Recounted (es ++ m.told s) t
  | aside {es : List Entry} {s t : Session} (h : Recounted es s) (ht : Aside s t) : Recounted es t

theorem eq_stored (h : e ∈ storedBy steps s) : e = .stored := by
  induction steps generalizing s with
  | nil => simp [storedBy] at h
  | cons step steps ih =>
    rcases List.mem_append.mp h with h | h
    · split at h
      · exact List.mem_singleton.mp h
      · simp at h
    · split at h
      · exact ih h
      · simp at h

theorem storedBy_eq (steps : Plan) (s : Session) :
    storedBy steps s = List.replicate (storedBy steps s).length .stored :=
  List.eq_replicate_iff.mpr ⟨rfl, fun _ => eq_stored⟩

theorem storedBy_arranged (steps : Plan) (s : Session) :
    (storedBy steps s).map Entry.arranged = storedBy steps s := by
  rw [storedBy_eq, List.map_replicate]
  rfl

theorem told_arranged (query : String) (reply : Except Fault String) (s : Session) :
    (told query reply s).map Entry.arranged = match stepsOfReply reply with
      | .error f => [.failed query f]
      | .ok steps => .applied steps :: storedBy steps (s.extendPlan steps) := by
  rw [told, stepsOfReply_eq]
  cases named reply with
  | error f => rfl
  | ok steps => exact congrArg (_ :: ·) (storedBy_arranged _ _)

theorem ranked_told (h : e ∈ told query reply s) : e.Ranked := by
  unfold told at h
  cases hr : named reply with
  | error f =>
    rw [hr, List.mem_singleton] at h
    rw [h]
    intro x hx
    rw [List.mem_singleton.mp hx]
    exact fun hnan => by cases hnan
  | ok steps =>
    rw [hr] at h
    rcases List.mem_cons.mp h with rfl | h
    · exact ranked_named hr
    · rw [eq_stored h]
      exact fun x hx => by cases hx

theorem Move.ranked_told {m : Move} (h : e ∈ m.told s) : e.Ranked := by
  cases m with
  | submit query reply =>
    rw [Move.told] at h
    split at h
    · cases h
    · exact Session.ranked_told h
  | answer number query reply =>
    rw [Move.told] at h
    split at h
    · exact Session.ranked_told h
    · cases h
  | reset =>
    rw [Move.told, List.mem_singleton] at h
    rw [h]
    exact fun x hx => by cases hx
  | _ => cases h

theorem Remembered.finished (h : Remembered es s) {number : Nat} {r : Except Fault Outcome}
    (hrun : run (finish number query reply) s = (r, t)) :
    Remembered (es ++ ((Move.answer number query reply).told s).map Entry.arranged) t := by
  rw [Move.told]
  by_cases hn : s.request = number
  · rw [if_pos hn, told_arranged]
    exact h.settled ((run_finish_newest hn query reply).symm.trans hrun)
  · have hstale := run_finish_stale hn query reply
    rw [hrun] at hstale
    obtain rfl : t = s := hstale
    simpa [if_neg hn] using h

theorem Move.told_arranged {m : Move}
    (hm : ∀ number query reply, m ≠ .answer number query reply) (s : Session) :
    (m.told s).map Entry.arranged = m.entries s := by
  cases m with
  | answer number query reply => exact (hm number query reply rfl).elim
  | submit query reply =>
    show _ = Session.entries query reply s
    rw [Move.told, Session.entries]
    split
    · rfl
    · exact Session.told_arranged query reply _
  | _ => rfl

theorem Remembered.told (h : Remembered es s) (m : Move) :
    Ends m.act s (fun _ t => Remembered (es ++ (m.told s).map Entry.arranged) t)
      (fun _ t => Remembered (es ++ (m.told s).map Entry.arranged) t) := by
  by_cases hm : ∀ number query reply, m ≠ .answer number query reply
  · rw [Move.told_arranged hm]
    exact h.moved m hm
  · obtain ⟨number, query, reply, rfl⟩ : ∃ number query reply, m = .answer number query reply := by
      simpa using hm
    have hfinish : Ends (finish number query reply) s
        (fun _ t => Remembered (es ++ (Move.told s _).map Entry.arranged) t)
        (fun _ t => Remembered (es ++ (Move.told s _).map Entry.arranged) t) :=
      ends_state.mpr (h.finished rfl)
    exact hfinish.bind fun _ _ ht => ht

theorem Recounted.remembered (h : Recounted es s) :
    Remembered (es.map Entry.arranged) s ∧ ∀ e ∈ es, e.Ranked := by
  induction h with
  | new hplan herror => exact ⟨⟨hplan, herror⟩, by simp⟩
  | move _ m hrun ih =>
    refine ⟨?_, fun e he => ?_⟩
    · rw [List.map_append]
      exact (ih.1.told m).state hrun
    · rcases List.mem_append.mp he with he | he
      · exact ih.2 e he
      · exact Move.ranked_told he
  | aside _ ht ih => exact ⟨ih.1.besides ht.besides, ih.2⟩

/-- The plan runs as if its steps had been put together as they were named. -/
theorem Recounted.order (h : Recounted es s) :
    arrange s.plan = arrange (planOf s.stacking es) := by
  obtain ⟨hplan, hranked⟩ := h.remembered
  rw [hplan.plan, arrange_planOf hranked]

end Telling

section Together

theorem planOf_replies (h : ∀ steps ∈ replies, Plan.containsReset steps = false) :
    planOf true (before ++ replies.map .applied) = planOf true before ++ replies.flatten := by
  induction replies generalizing before with
  | nil => simp
  | cons steps replies ih =>
    have hgo : Entry.isBoundary true (.applied steps) = false := by
      simpa [Entry.isBoundary] using h steps (by simp)
    rw [List.map_cons, List.append_cons, ih fun x hx => h x (by simp [hx]), planOf_applied hgo,
      List.flatten_cons, List.append_assoc]

/-- The order in which the steps of some replies run on top of what was in the plan before, less
those that order the view if the last of them stored an order. -/
def runningOrder (before : List Entry) (replies : List Plan) (stored : Bool) : Plan :=
  let order := arrange (planOf true before ++ replies.flatten)
  if stored then Plan.withoutOrdering order else order

/-- Arranging a plan puts its steps in the one ascending order, which is the same if parts of it are
arranged before, and if steps are left out before or after. So the steps of stacked replies, each
of which was arranged on its own, run in the order of all of them as they were named; storing an
order takes from it just the steps that order the view. -/
theorem stacked_as_one {a b : Plan} (hranked : ∀ x ∈ a ++ b, x.Ranked) (h : Recounted es s)
    (hstacking : s.stacking = true) {stored : Bool}
    (hes : es = before ++ replies.map .applied ++ if stored then [.stored] else [])
    (hreset : ∀ steps ∈ replies, Plan.containsReset steps = false) :
    ((∀ p, Plan.Ascending a p ↔ p = arrange a) ∧
      arrange (arrange a ++ arrange b) = arrange (a ++ b) ∧
      ∀ keep : Step → Bool, arrange (a.filter keep) = (arrange a).filter keep) ∧
    arrange s.plan = runningOrder before replies stored ∧
    s.view.map (·.id) = (Plan.run (runningOrder before replies stored) s.snapshot).map (·.id) := by
  have ha : ∀ x ∈ a, x.Ranked := fun x hx => hranked x (List.mem_append_left b hx)
  have hplan : arrange s.plan = runningOrder before replies stored := by
    have hentries := h.remembered.2
    rw [h.order, hstacking, hes]
    unfold runningOrder
    rw [← planOf_replies hreset]
    cases stored with
    | false => simp
    | true =>
      have hearlier : ∀ x ∈ planOf true (before ++ replies.map .applied), x.Ranked := by
        refine ranked_stepsOf fun e he => hentries e ?_
        rw [hes]
        exact List.mem_append_left _ (mem_sinceBoundary he)
      simp only [if_true]
      rw [planOf_stored, arrange_withoutOrdering hearlier]
  refine ⟨⟨fun p => Plan.ascending_iff_eq ha, Plan.arrange_append hranked,
    Plan.arrange_filter ha⟩, hplan, ?_⟩
  have hview : s.view = (Plan.run (arrange s.plan) s.snapshot).map shown := rfl
  rw [hview, hplan, List.map_map]
  rfl

/-- A request for the first bookmark, and one for the last of them and to keep the order by
title. -/
def firstReply : Except Fault String := .ok
  "\x7b\"action\": \"limitFirst\", \"count\": 1, \"priority\": 2\x7d"

def laterReply : Except Fault String := .ok
  "[\x7b\"action\": \"reorder\"\x7d, \x7b\"action\": \"limitLast\", \"priority\": 1\x7d]"

@[irreducible] def twinFirst : Session := (run (Move.submit "first" firstReply).act twinSeen).2

@[irreducible] def twinLater : Session := (run (Move.submit "later" laterReply).act twinFirst).2

def stepsNamed (reply : Except Fault String) : Plan := (named reply).toOption.getD []

def twinTold : List Entry :=
  (Move.submit "first" firstReply).told twinSeen ++ (Move.submit "later" laterReply).told twinFirst

theorem twinLater_recounted : Recounted twinTold twinLater := by
  have hnew : Recounted [] { shelf := twinShelf } := .new rfl rfl
  have hseen : Recounted [] twinSeen := by
    unfold twinSeen
    exact hnew.move .refresh rfl
  have hfirst : Recounted ([] ++ (Move.submit "first" firstReply).told twinSeen) twinFirst := by
    unfold twinFirst
    exact hseen.move (.submit "first" firstReply) rfl
  rw [List.nil_append] at hfirst
  unfold twinLater
  exact hfirst.move (.submit "later" laterReply) rfl

theorem named_eq (h : (named reply).isOk = true) : named reply = .ok (stepsNamed reply) := by
  unfold stepsNamed
  cases hr : named reply with
  | error f =>
    rw [hr] at h
    cases h
  | ok steps => rfl

theorem told_ok {n : Nat} (h : named reply = .ok (stepsNamed reply))
    (hn : (storedBy (arrange (stepsNamed reply))
      (s.extendPlan (arrange (stepsNamed reply)))).length = n) :
    told query reply s = .applied (stepsNamed reply) :: List.replicate n .stored := by
  rw [told, h, ← hn, ← storedBy_eq]

theorem firstReply_named : named firstReply = .ok (stepsNamed firstReply) :=
  named_eq (by decide +kernel)

theorem laterReply_named : named laterReply = .ok (stepsNamed laterReply) :=
  named_eq (by decide +kernel)

theorem twinTold_eq : twinTold =
    [] ++ [stepsNamed firstReply, stepsNamed laterReply].map .applied ++ [.stored] := by
  have hfirst : told "first" firstReply (twinSeen.begin "first").2 =
      .applied (stepsNamed firstReply) :: List.replicate 0 .stored :=
    told_ok firstReply_named (by decide +kernel)
  have hlater : told "later" laterReply (twinFirst.begin "later").2 =
      .applied (stepsNamed laterReply) :: List.replicate 1 .stored :=
    told_ok laterReply_named (by decide +kernel)
  have hblank : Text.blank "first" = false ∧ Text.blank "later" = false := by decide +kernel
  rw [twinTold, Move.told, Move.told, hblank.1, hblank.2, hfirst, hlater]
  rfl

/-- The step that comes later runs first, and the one that stored the order has gone. -/
theorem twinLater_as_one : (arrange twinLater.plan).actions = ["limitLast", "limitFirst"] ∧
    ((∀ p, Plan.Ascending (stepsNamed firstReply) p ↔ p = arrange (stepsNamed firstReply)) ∧
      arrange (arrange (stepsNamed firstReply) ++ arrange (stepsNamed laterReply)) =
        arrange (stepsNamed firstReply ++ stepsNamed laterReply) ∧
      ∀ keep : Step → Bool, arrange ((stepsNamed firstReply).filter keep) =
        (arrange (stepsNamed firstReply)).filter keep) ∧
    arrange twinLater.plan =
      runningOrder [] [stepsNamed firstReply, stepsNamed laterReply] true ∧
    twinLater.view.map (·.id) =
      (Plan.run (runningOrder [] [stepsNamed firstReply, stepsNamed laterReply] true)
        twinLater.snapshot).map (·.id) := by
  have hranked : ∀ x ∈ stepsNamed firstReply ++ stepsNamed laterReply, x.Ranked := by
    intro x hx
    rcases List.mem_append.mp hx with hx | hx
    · exact ranked_named firstReply_named x hx
    · exact ranked_named laterReply_named x hx
  obtain ⟨hactions, hstacking, hreset⟩ :
      (arrange twinLater.plan).actions = ["limitLast", "limitFirst"] ∧ twinLater.stacking = true ∧
        ∀ steps ∈ [stepsNamed firstReply, stepsNamed laterReply],
          Plan.containsReset steps = false := by
    decide +kernel
  exact ⟨hactions, stacked_as_one hranked twinLater_recounted hstacking twinTold_eq hreset⟩

end Together

end LinkShelf.Session

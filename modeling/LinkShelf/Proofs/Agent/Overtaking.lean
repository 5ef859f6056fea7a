import LinkShelf.Agent.Query
import Mathlib.Data.List.Nodup
/-!
Requests that overlap. However their replies come in, the session ends as if only those requests
had been made, one after the other, that were still the newest one when their reply came.
-/
namespace LinkShelf.Session

open LinkShelf.Act

variable {s t u : Session} {α β : Type}

def atRequest (n : Nat) (s : Session) : Session := { s with request := n }

/-- An operation to which the number of the newest request is nothing. -/
def Blind (act : Act α) : Prop :=
  ∀ n s, run act (s.atRequest n) = ((run act s).1, (run act s).2.atRequest n)

section Blind

theorem blind_pure (a : α) : Blind (pure a) := fun _ _ => rfl

theorem blind_throw (f : Fault) : Blind (throw f : Act α) := fun _ _ => rfl

theorem blind_lift (r : Except Fault α) : Blind (liftM r : Act α) := fun _ _ => rfl

theorem blind_modify {f : Session → Session}
    (h : ∀ n s, f (s.atRequest n) = (f s).atRequest n) : Blind (modify f) := by
  intro n s
  simp only [run, run_modify, h]

theorem Blind.bind {act : Act α} {f : α → Act β} (h : Blind act) (hf : ∀ a, Blind (f a)) :
    Blind (act >>= f) := by
  intro n s
  have hs := h n s
  simp only [run] at hs ⊢
  rw [run_bind, run_bind, hs]
  cases hr : Act.run act s with
  | mk r t =>
    cases r with
    | ok a => exact hf a n t
    | error e => rfl

theorem Blind.tryCatch {act : Act α} {f : Fault → Act α} (h : Blind act)
    (hf : ∀ e, Blind (f e)) : Blind (tryCatch act f) := by
  intro n s
  have hs := h n s
  simp only [run] at hs ⊢
  rw [run_tryCatch, run_tryCatch, hs]
  cases hr : Act.run act s with
  | mk r t =>
    cases r with
    | ok a => rfl
    | error e => exact hf e n t

/-- What is done with a session that is looked at, as long as its number is not. -/
theorem blind_get_bind {f : Session → Act β} (h : ∀ n s, f (s.atRequest n) = f s)
    (hf : ∀ s, Blind (f s)) : Blind (get >>= f) := by
  intro n s
  simp only [run, run_bind, run_get, h]
  exact hf s n s

theorem blind_onShelf (act : Shelf.Act α) : Blind (onShelf act) := by
  intro n s
  unfold onShelf
  simp only [run, run_bind, run_get, atRequest]
  cases hr : Act.run act s.shelf with
  | mk r t => cases r <;> rfl

theorem blind_forM {f : α → Act PUnit} (hf : ∀ a, Blind (f a)) (as : List α) :
    Blind (as.forM f) := by
  induction as with
  | nil => exact blind_pure _
  | cons a as ih => exact (hf a).bind fun _ => ih

end Blind

theorem blind_say (text : String) (level : Level) : Blind (modify (say text level)) :=
  blind_modify fun _ _ => rfl

theorem blind_stageDuplicates : Blind stageDuplicates := by
  refine blind_get_bind (fun _ _ => rfl) fun s => (blind_lift _).bind fun ids => ?_
  cases ids with
  | nil => exact blind_say _ _
  | cons id ids =>
    exact (blind_modify fun _ _ => rfl).bind fun _ =>
      (blind_modify fun _ _ => rfl).bind fun _ => blind_say _ _

theorem blind_reload : Blind reload := by
  refine (blind_onShelf _).tryCatch fun f => blind_get_bind (fun _ _ => rfl) fun s => ?_
  exact blind_throw _

theorem blind_persistOrder (step : Step) : Blind (persistOrder step) := by
  refine blind_get_bind (fun _ _ => rfl) fun s => ?_
  refine Blind.bind (Blind.tryCatch ?_ ?_) ?_
  · refine Blind.bind ?_ fun _ => blind_reload.bind fun bs => ?_
    · exact (blind_onShelf _).bind fun _ => blind_pure _
    · exact (blind_modify fun _ _ => rfl).bind fun _ => blind_pure _
  · intro f
    have hrest : Blind (do
        modify (record f)
        modify (say "Failed to persist new order." .error)
        pure false) :=
      (blind_modify fun _ _ => rfl).bind fun _ => (blind_say _ _).bind fun _ => blind_pure _
    cases hf : f.isStore with
    | true => simpa [hf] using hrest
    | false => simpa [hf] using blind_throw f
  · intro saved
    cases saved with
    | true => exact (blind_modify fun _ _ => rfl).bind fun _ => blind_say _ _
    | false => exact blind_pure _

theorem blind_dispatch (step : Step) : Blind (dispatch step) := by
  unfold dispatch
  cases step.known with
  | none => exact blind_pure _
  | some a =>
    cases a with
    | help | importBookmarks | exportBookmarks => exact blind_modify fun _ _ => rfl
    | removeDuplicates => exact blind_stageDuplicates
    | reorder | reorderAscending | reorderDescending | persistSortedOrder =>
      exact blind_persistOrder step
    | _ => exact blind_pure _

theorem blind_settle (query : String) (reply : Except Fault String) :
    Blind (settle query reply) := by
  unfold settle
  cases stepsOfReply reply with
  | error f =>
    refine (blind_modify fun _ _ => rfl).bind fun _ => (blind_modify fun _ _ => rfl).bind fun _ =>
      (blind_say _ _).bind fun _ => blind_get_bind (fun _ _ => rfl) fun _ => blind_pure _
  | ok steps =>
    refine blind_get_bind (fun _ _ => rfl) fun s => (blind_modify ?_).bind fun _ =>
      (blind_forM blind_dispatch steps).bind fun _ =>
        blind_get_bind (fun _ _ => rfl) fun _ => blind_pure _
    intro n s
    unfold extendPlan
    cases hs : s.stacking <;> simp [atRequest, hs, stackPlan, replacePlan]

theorem run_finish_newest {n : Nat} (h : s.request = n) (query : String)
    (reply : Except Fault String) : run (finish n query reply) s = run (settle query reply) s := by
  unfold finish
  simp only [run, run_bind, run_get, h, ne_eq, not_true_eq_false, if_false]

theorem run_finish_stale {n : Nat} (h : s.request ≠ n) (query : String)
    (reply : Except Fault String) : (run (finish n query reply) s).2 = s := by
  unfold finish
  simp only [run, run_bind, run_get, ne_eq, h, not_false_eq_true, if_true]
  rfl

theorem run_submit_blank {query : String} (h : Text.blank query = true)
    (reply : Except Fault String) : run (submit query reply) s = (.ok (s.outcome query), s) := by
  unfold submit
  simp only [run, run_bind, run_get, run_set, begin_blank h, run_pure]

theorem run_submit_filled {query : String} (h : Text.blank query = false)
    (reply : Except Fault String) :
    run (submit query reply) s = run (settle query reply) (s.begin query).2 := by
  unfold submit
  simp only [run, run_bind, run_get, run_set, begin_filled h]
  exact run_finish_newest rfl query reply

structure Request where
  query : String
  reply : Except Fault String

namespace Request

def after (s : Session) (r : Request) : Session := (run (submit r.query r.reply) s).2

end Request

/-- A request whose reply is still to come: its place among all requests and its number. -/
structure Waiting where
  place : Nat
  number : Nat
  request : Request

/-- Requests that overlap: those made so far, those that wait for their replies, and those, with
their places, that were the newest ones when their replies came. -/
inductive Overlapping (start : Session) :
    List Request → List Waiting → List (Nat × Request) → Session → Prop where
  | start : Overlapping start [] [] [] start
  | ask {asked : List Request} {waiting : List Waiting} {kept : List (Nat × Request)}
      {s t : Session} {n : Nat} (h : Overlapping start asked waiting kept s) (r : Request)
      (hbegin : s.begin r.query = (some n, t)) :
      Overlapping start (asked ++ [r]) (⟨asked.length, n, r⟩ :: waiting) kept t
  | answer {asked : List Request} {earlier later : List Waiting} {kept : List (Nat × Request)}
      {s t : Session} {r : Except Fault Outcome} (w : Waiting)
      (h : Overlapping start asked (earlier ++ w :: later) kept s)
      (hrun : run (finish w.number w.request.query w.request.reply) s = (r, t)) :
      Overlapping start asked (earlier ++ later)
        (if w.place + 1 = asked.length then kept ++ [(w.place, w.request)] else kept) t

/-- The session that comes of some requests, one after the other. -/
def inTurn (s : Session) (kept : List (Nat × Request)) : Session :=
  kept.foldl (fun s e => e.2.after s) s

namespace Overlapping

variable {start : Session} {asked : List Request} {waiting earlier later : List Waiting}
  {kept : List (Nat × Request)} {r : Request} {w : Waiting} {n : Nat}

theorem begin_eq (h : s.begin r.query = (some n, t)) :
    Text.blank r.query = false ∧ n = s.request + 1 ∧
      t = { s with request := s.request + 1, pending := [] } := by
  cases hb : Text.blank r.query with
  | true =>
    rw [begin_blank hb] at h
    cases h
  | false =>
    rw [begin_filled hb] at h
    cases h
    exact ⟨rfl, rfl, rfl⟩

/-- How the requests that wait and those that count stand to all that were made. -/
structure Booked (start : Session) (asked : List Request) (waiting : List Waiting)
    (kept : List (Nat × Request)) : Prop where
  filled : ∀ r ∈ asked, Text.blank r.query = false
  number : ∀ w ∈ waiting, w.number = start.request + w.place + 1
  waits : ∀ w ∈ waiting, asked[w.place]? = some w.request
  once : (waiting.map Waiting.place).Nodup
  made : ∀ e ∈ kept, asked[e.1]? = some e.2
  settled : ∀ e ∈ kept, e.1 ∉ waiting.map Waiting.place
  rising : (kept.map Prod.fst).Pairwise (· < ·)

theorem Booked.ask (h : Booked start asked waiting kept) (hfilled : Text.blank r.query = false)
    (hn : n = start.request + asked.length + 1) :
    Booked start (asked ++ [r]) (⟨asked.length, n, r⟩ :: waiting) kept := by
  have hold : ∀ {i : Nat} {x : Request}, asked[i]? = some x → (asked ++ [r])[i]? = some x := by
    intro i x hx
    rw [List.getElem?_append_left (List.getElem?_eq_some_iff.mp hx).1, hx]
  have hnew : asked.length ∉ waiting.map Waiting.place := by
    intro hm
    obtain ⟨w, hw, hp⟩ := List.mem_map.mp hm
    have := (List.getElem?_eq_some_iff.mp (h.waits w hw)).1
    omega
  refine ⟨?_, ?_, ?_, List.nodup_cons.mpr ⟨hnew, h.once⟩, fun e he => hold (h.made e he), ?_,
    h.rising⟩
  · intro x hx
    rcases List.mem_append.mp hx with hx | hx
    · exact h.filled x hx
    · rw [List.mem_singleton.mp hx]
      exact hfilled
  · intro w hw
    rcases List.mem_cons.mp hw with hw | hw
    · rw [hw, hn]
    · exact h.number w hw
  · intro w hw
    rcases List.mem_cons.mp hw with hw | hw
    · simp [hw]
    · exact hold (h.waits w hw)
  · intro e he
    have := (List.getElem?_eq_some_iff.mp (h.made e he)).1
    rw [List.map_cons, List.mem_cons, not_or]
    exact ⟨Nat.ne_of_lt this, h.settled e he⟩

theorem Booked.drop (h : Booked start asked (earlier ++ w :: later) kept) :
    Booked start asked (earlier ++ later) kept ∧
      w.place ∉ (earlier ++ later).map Waiting.place := by
  have hsub : ∀ x ∈ earlier ++ later, x ∈ earlier ++ w :: later := by
    intro x hx
    simp only [List.mem_append, List.mem_cons] at hx ⊢
    exact hx.imp_right .inr
  have honce := h.once
  rw [List.map_append, List.map_cons, List.nodup_middle, ← List.map_append] at honce
  obtain ⟨hw, honce⟩ := List.nodup_cons.mp honce
  refine ⟨⟨h.filled, fun x hx => h.number x (hsub x hx), fun x hx => h.waits x (hsub x hx), honce,
    h.made, fun e he hm => h.settled e he ?_, h.rising⟩, hw⟩
  obtain ⟨x, hx, hp⟩ := List.mem_map.mp hm
  exact List.mem_map.mpr ⟨x, hsub x hx, hp⟩

/-- The newest request comes after all that counted before. -/
theorem Booked.keep (h : Booked start asked (earlier ++ w :: later) kept)
    (hw : w.place + 1 = asked.length) :
    Booked start asked (earlier ++ later) (kept ++ [(w.place, w.request)]) := by
  obtain ⟨hd, hplace⟩ := h.drop
  have hmem : w ∈ earlier ++ w :: later := by simp
  refine { hd with made := ?_, settled := ?_, rising := ?_ }
  · intro e he
    rcases List.mem_append.mp he with he | he
    · exact h.made e he
    · rw [List.mem_singleton.mp he]
      exact h.waits w hmem
  · intro e he
    rcases List.mem_append.mp he with he | he
    · exact hd.settled e he
    · rw [List.mem_singleton.mp he]
      exact hplace
  · rw [List.map_append, List.pairwise_append]
    refine ⟨h.rising, by simp, ?_⟩
    intro i hi j hj
    obtain ⟨e, he, rfl⟩ := List.mem_map.mp hi
    have hlt := (List.getElem?_eq_some_iff.mp (h.made e he)).1
    have hne : e.1 ≠ w.place := fun hp =>
      h.settled e he (List.mem_map.mpr ⟨w, hmem, hp.symm⟩)
    simp only [List.map_cons, List.map_nil, List.mem_singleton] at hj
    omega

/-- What holds while requests overlap. The session is what has come of the requests that count so
far, only that nothing is pending while the newest one waits. -/
structure Tidy (start : Session) (asked : List Request) (waiting : List Waiting)
    (kept : List (Nat × Request)) (s : Session) : Prop
    extends Booked start asked waiting kept where
  request : s.request = start.request + asked.length
  session : (∃ w ∈ waiting, w.place + 1 = asked.length) ∧
      s = { (inTurn start kept).atRequest s.request with pending := [] } ∨
    (∀ w ∈ waiting, w.place + 1 ≠ asked.length) ∧ s = (inTurn start kept).atRequest s.request

theorem Tidy.ask (h : Tidy start asked waiting kept s) (hbegin : s.begin r.query = (some n, t)) :
    Tidy start (asked ++ [r]) (⟨asked.length, n, r⟩ :: waiting) kept t := by
  obtain ⟨hfilled, hn, ht⟩ := begin_eq hbegin
  have hrequest := h.request
  refine ⟨h.toBooked.ask hfilled (by omega), ?_, .inl ⟨⟨_, List.mem_cons_self, by simp⟩, ?_⟩⟩
  · simp only [ht, List.length_append, List.length_singleton]
    omega
  · rcases h.session with ⟨-, hs⟩ | ⟨-, hs⟩ <;>
    · rw [ht, hs]
      rfl

theorem Tidy.stale (h : Tidy start asked (earlier ++ w :: later) kept s)
    (hw : w.place + 1 ≠ asked.length) : Tidy start asked (earlier ++ later) kept s := by
  refine ⟨h.toBooked.drop.1, h.request, ?_⟩
  rcases h.session with ⟨⟨x, hx, hp⟩, hs⟩ | ⟨hnone, hs⟩
  · refine .inl ⟨⟨x, ?_, hp⟩, hs⟩
    simp only [List.mem_append, List.mem_cons] at hx ⊢
    rcases hx with hx | hx | hx
    · exact .inl hx
    · exact (hw (hx ▸ hp)).elim
    · exact .inr hx
  · refine .inr ⟨fun x hx => hnone x ?_, hs⟩
    simp only [List.mem_append, List.mem_cons] at hx ⊢
    exact hx.imp_right .inr

theorem after_eq (hr : Text.blank r.query = false) : r.after s =
    (run (settle r.query r.reply) { s with request := s.request + 1, pending := [] }).2 := by
  unfold Request.after
  rw [run_submit_filled hr, begin_filled hr]

/-- The reply to the newest request does what it does when nothing else was asked. -/
theorem Tidy.newest {x : Except Fault Outcome}
    (h : Tidy start asked (earlier ++ w :: later) kept s) (hw : w.place + 1 = asked.length)
    (hrun : run (finish w.number w.request.query w.request.reply) s = (x, t)) :
    Tidy start asked (earlier ++ later) (kept ++ [(w.place, w.request)]) t := by
  have hmem : w ∈ earlier ++ w :: later := by simp
  have hnumber : s.request = w.number := by
    have := h.number w hmem
    have := h.request
    omega
  have hfilled := h.filled _ (List.mem_of_getElem? (h.waits w hmem))
  have hs : s = { (inTurn start kept).atRequest s.request with pending := [] } := by
    rcases h.session with ⟨-, hs⟩ | ⟨hnone, -⟩
    · exact hs
    · exact (hnone w hmem hw).elim
  let u : Session := { inTurn start kept with
    request := (inTurn start kept).request + 1, pending := [] }
  have hu : s = u.atRequest s.request := hs
  rw [run_finish_newest hnumber] at hrun
  have hblind := blind_settle w.request.query w.request.reply s.request u
  rw [← hu, hrun] at hblind
  have ht : t = (w.request.after (inTurn start kept)).atRequest s.request := by
    rw [after_eq hfilled]
    exact congrArg Prod.snd hblind
  have hturn : inTurn start (kept ++ [(w.place, w.request)]) =
      w.request.after (inTurn start kept) := by
    simp [inTurn]
  have hrequest : t.request = s.request := by
    rw [ht]
    rfl
  refine ⟨h.toBooked.keep hw, hrequest.trans h.request, .inr ⟨?_, ?_⟩⟩
  · intro y hy hp
    refine h.toBooked.drop.2 (List.mem_map.mpr ⟨y, hy, ?_⟩)
    omega
  · rw [hturn, hrequest]
    exact ht

theorem tidy (h : Overlapping start asked waiting kept s) : Tidy start asked waiting kept s := by
  induction h with
  | start =>
    refine ⟨by constructor <;> simp, rfl, .inr ⟨by simp, rfl⟩⟩
  | ask _ r hbegin ih => exact ih.ask hbegin
  | @answer asked earlier later kept s t x w _ hrun ih =>
    by_cases hw : w.place + 1 = asked.length
    · rw [if_pos hw]
      exact ih.newest hw hrun
    · rw [if_neg hw]
      have hmem : w ∈ earlier ++ w :: later := by simp
      have hstale : s.request ≠ w.number := by
        have := ih.number w hmem
        have := ih.request
        omega
      have ht := run_finish_stale hstale w.request.query w.request.reply
      rw [hrun] at ht
      rw [show t = s from ht]
      exact ih.stale hw

end Overlapping

/-- Once all replies have come, the session is what comes of the requests that were the newest ones
when their replies came, made one after the other in the order in which they were made; only the
number of the newest request tells that there were more. -/
theorem overlapping_eq_inTurn {start : Session} {asked : List Request}
    {kept : List (Nat × Request)} (h : Overlapping start asked [] kept s) :
    (∀ e ∈ kept, asked[e.1]? = some e.2) ∧ (kept.map Prod.fst).Pairwise (· < ·) ∧
      s = (inTurn start kept).atRequest s.request := by
  have ht := h.tidy
  refine ⟨ht.made, ht.rising, ?_⟩
  rcases ht.session with ⟨⟨w, hw, -⟩, -⟩ | ⟨-, hs⟩
  · simp at hw
  · exact hs

section Example

def idle : Session := { shelf := { supply := fun _ => "" } }

def early : Request := ⟨"old", .ok ""⟩

def late : Request := ⟨"new", .error (.general "no reply")⟩

/-- The later one of two requests is replied to first. -/
def overtaken : Session :=
  let asked := ((idle.begin early.query).2.begin late.query).2
  let settled := (run (finish 2 late.query late.reply) asked).2
  (run (finish 1 early.query early.reply) settled).2

theorem overlapping_idle : Overlapping idle [early, late] [] [(1, late)] overtaken := by
  have hearly : Overlapping idle [early] [⟨0, 1, early⟩] [] (idle.begin early.query).2 :=
    .ask .start early rfl
  have hlate : Overlapping idle [early, late] [⟨1, 2, late⟩, ⟨0, 1, early⟩] []
      ((idle.begin early.query).2.begin late.query).2 := .ask hearly late rfl
  have hsettled := @Overlapping.answer idle _ [] _ _ _ _ _ ⟨1, 2, late⟩ hlate rfl
  exact @Overlapping.answer idle _ [] _ _ _ _ _ ⟨0, 1, early⟩ hsettled rfl

theorem late_overtakes :
    (∀ e ∈ [(1, late)], [early, late][e.1]? = some e.2) ∧
      ([(1, late)].map Prod.fst).Pairwise (· < ·) ∧
      overtaken = (inTurn idle [(1, late)]).atRequest overtaken.request :=
  overlapping_eq_inTurn overlapping_idle

end Example

end LinkShelf.Session

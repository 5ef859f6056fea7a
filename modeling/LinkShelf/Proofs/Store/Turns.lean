import LinkShelf.Proofs.Store.Reach
import LinkShelf.Proofs.Store.Trouble
/-!
Removing several bookmarks, turn by turn. Each id has its turn on the shelf that those before it
have left. It fails there if nothing is stored under it, or if the shelf cannot be saved without
its bookmark; the account of the removals has each id in the one or the other way.
-/
namespace LinkShelf.Shelf

open LinkShelf.Act

variable {s t u : Shelf} {id : String} {targets : List String}

/-- An id that is to be removed, and the shelf when its turn comes. -/
structure Turn where
  id : String
  shelf : Shelf

namespace Turn

/-- The shelf without the bookmark, to be saved. -/
def without (turn : Turn) : Shelf :=
  { turn.shelf.begun .remove with
    items := numbered (turn.shelf.items.eraseP (hasId turn.id)) }

/-- What stops a removal. -/
def fault? (turn : Turn) : Option Fault :=
  match turn.shelf.items.find? (hasId turn.id) with
  | none => some (turn.shelf.missing turn.id)
  | some _ =>
    match (run save turn.without).1 with
    | .ok _ => none
    | .error f => some f

/-- How a failure is accounted for. -/
def failure? (turn : Turn) : Option (String × String) :=
  turn.fault?.map fun f => (turn.id, f.message)

/-- A turn fails just if nothing is stored under its id or its own save fails. -/
theorem fault?_iff (turn : Turn) : turn.fault?.isSome = true ↔
    some turn.id ∉ ids turn.shelf.items ∨ ∃ f, (run save turn.without).1 = .error f := by
  have hfind : turn.shelf.items.find? (hasId turn.id) = none ↔
      some turn.id ∉ ids turn.shelf.items := by
    simp [ids, hasId]
  unfold fault?
  cases hf : turn.shelf.items.find? (hasId turn.id) with
  | none => simp [hfind.mp hf]
  | some b =>
    have hstored : some turn.id ∈ ids turn.shelf.items := by
      by_contra hmissing
      rw [hfind.mpr hmissing] at hf
      cases hf
    cases hsave : (run save turn.without).1 with
    | ok _ => simp [hstored]
    | error f => simp

end Turn

/-- The shelf after removals in turn, however each of them ends. -/
def after (targets : List String) (s : Shelf) : Shelf :=
  targets.foldl (fun s id => (run (remove id) s).2) s

def turns : List String → Shelf → List Turn
  | [], _ => []
  | id :: targets, s => ⟨id, s⟩ :: turns targets (after [id] s)

/-- The turns of the ids that are to be removed together. -/
def removals (targets : List String) (s : Shelf) : List Turn :=
  turns targets (s.begun .removeAll)

/-- The ids of the turns that did not fail. -/
def gone (turns : List Turn) : List String := (turns.filter (·.fault?.isNone)).map (·.id)

theorem turns_id (targets : List String) (s : Shelf) :
    (turns targets s).map (·.id) = targets := by
  induction targets generalizing s with
  | nil => rfl
  | cons id targets ih => rw [turns, List.map_cons, ih]

theorem turns_take (targets : List String) (s : Shelf) (i : Nat) :
    (turns targets s).take i = turns (targets.take i) s := by
  induction targets generalizing s i with
  | nil => simp [turns]
  | cons id targets ih =>
    cases i with
    | zero => rfl
    | succ i => rw [turns, List.take_succ_cons, ih, List.take_succ_cons, turns]

/-- The shelf of a turn is what the removals before it have left. -/
theorem turns_shelf {turn : Turn} {i : Nat} (h : (turns targets s)[i]? = some turn) :
    turn.shelf = after (targets.take i) s := by
  induction targets generalizing s i with
  | nil => cases h
  | cons id targets ih =>
    cases i with
    | zero =>
      cases h
      rfl
    | succ i =>
      rw [turns, List.getElem?_cons_succ] at h
      exact ih h

section Runs

theorem run_lookUp (id : String) (s : Shelf) : run (lookUp id) s =
    match s.items.find? (hasId id) with
    | some b => (.ok b, s)
    | none => (.error (s.missing id), s) := by
  unfold lookUp
  simp only [run, run_bind, run_get]
  cases s.items.find? (hasId id) with
  | some b => rfl
  | none => rfl

/-- A removal fails with what stops it. -/
theorem run_remove (h : s.due .remove = none) (id : String) :
    (run (remove id) s).1 = match Turn.fault? ⟨id, s⟩ with
      | none => .ok ()
      | some f => .error f := by
  have hitems : (s.begun .remove).items = s.items := rfl
  rw [remove, run_meeting_begun h]
  show (run (lookUp id >>= _) (s.begun .remove)).1 = _
  unfold Turn.fault?
  rw [run, run_bind, ← run, run_lookUp, hitems]
  cases hf : s.items.find? (hasId id) with
  | none => rfl
  | some b =>
    simp only [run_bind, run_get]
    rw [← run, run_commit]
    show _ = match (match (run save (Turn.without ⟨id, s⟩)).1 with
      | .ok _ => none
      | .error f => some f) with
      | none => Except.ok ()
      | some f => .error f
    have hwithout : Turn.without ⟨id, s⟩ = { s.begun .remove with
        items := numbered ((s.begun .remove).items.eraseP (hasId id)) } := rfl
    rw [hwithout]
    rcases run save _ with ⟨x, t⟩
    cases x with
    | ok _ => rfl
    | error f => rfl

end Runs

/-- Nothing fails but saves, and these as failed writes. -/
structure OnlySavesFail (s : Shelf) : Prop extends Troubled s where
  remove : ∀ f, some f ∉ s.outages .remove
  removeAll : ∀ f, some f ∉ s.outages .removeAll

theorem OnlySavesFail.spent (hs : OnlySavesFail s) (h : Spent s t) : OnlySavesFail t :=
  ⟨hs.toTroubled.spent h, fun f hf => hs.remove f ((h.outages _).subset hf),
    fun f hf => hs.removeAll f ((h.outages _).subset hf)⟩

theorem OnlySavesFail.after_one (hs : OnlySavesFail s) (id : String) :
    OnlySavesFail (after [id] s) := by
  have hspent : Ends (Shelf.remove id) s (fun _ t => Spent s t) (fun _ t => Spent s t) :=
    (spent_remove hs.toTroubled).mono (fun _ _ h => h) fun _ _ h => h.2
  exact hs.spent (hspent.state rfl)

section Account

/-- One turn: the bookmark is removed, or nothing has changed and the failure is accounted for. -/
theorem turn_taken (ho : Orderly s) (hs : OnlySavesFail s) (id : String) (r : Removal) :
    (Turn.fault? ⟨id, s⟩ = none ∧ (Write.remove id).Done s (after [id] s) ∧
      run (removeOne r id) s = (.ok (accounted r [id] [id] []), after [id] s)) ∨
    ∃ f, Turn.fault? ⟨id, s⟩ = some f ∧ Kept s (after [id] s) ∧
      run (removeOne r id) s = (.ok (accounted r [id] [] [(id, f.message)]), after [id] s) := by
  have hrun := run_remove (due_eq_none hs.remove) id
  have hspent : Ends (remove id) s (fun _ t => Spent s t)
      (fun f t => f.isStoreWrite = true ∧ Spent s t) := spent_remove hs.toTroubled
  have hends := ends_iff.mp ((ends_remove ho).and hspent)
  have hone := run_removeOne r id s
  have hafter : after [id] s = (run (remove id) s).2 := rfl
  rw [hafter, hone]
  rcases hr : run (remove id) s with ⟨x, t⟩
  rw [hr] at hrun
  cases hf : Turn.fault? ⟨id, s⟩ with
  | none =>
    rw [hf] at hrun
    obtain rfl : x = .ok () := hrun
    exact .inl ⟨rfl, (hends.1 _ t hr).1, rfl⟩
  | some f =>
    rw [hf] at hrun
    obtain rfl : x = .error f := hrun
    obtain ⟨hkept, hwrite, -⟩ := hends.2 f t hr
    refine .inr ⟨f, rfl, hkept, ?_⟩
    simp only [hwrite, if_true]

/-- Turn after turn, what is removed and what is accounted for are those of the turns. -/
theorem turns_taken (ho : Orderly s) (hs : OnlySavesFail s) (targets : List String)
    (r : Removal) :
    run (targets.foldlM removeOne r) s =
        (.ok (accounted r targets (gone (turns targets s))
          ((turns targets s).filterMap Turn.failure?)), after targets s) ∧
      Removes targets (gone (turns targets s)) ((turns targets s).filterMap Turn.failure?) s
        (after targets s) := by
  induction targets generalizing r s with
  | nil =>
    refine ⟨?_, .nil (.refl s)⟩
    show (Except.ok r, s) = (Except.ok (accounted r [] [] []), s)
    rw [accounted_nil]
  | cons id targets ih =>
    have hlater : after (id :: targets) s = after targets (after [id] s) := rfl
    rw [List.foldlM_cons, run, run_bind, turns, hlater]
    rcases turn_taken ho hs id r with ⟨hf, hdone, hrun⟩ | ⟨f, hf, hkept, hrun⟩
    · obtain ⟨hrest, hremoves⟩ := ih (hdone.orderly ho (unused_nil _ _)) (hs.after_one id)
        (accounted r [id] [id] [])
      have hgone : gone (⟨id, s⟩ :: turns targets (after [id] s)) =
          id :: gone (turns targets (after [id] s)) := by
        rw [gone, List.filter_cons_of_pos (by simp [hf])]
        rfl
      have hfailure : Turn.failure? ⟨id, s⟩ = none := by rw [Turn.failure?, hf]; rfl
      rw [← run, hrun, hgone, List.filterMap_cons_none hfailure]
      refine ⟨?_, .gone hdone hremoves⟩
      exact hrest.trans (by rw [accounted_cons]; rfl)
    · obtain ⟨hrest, hremoves⟩ := ih (hkept.orderly ho) (hs.after_one id)
        (accounted r [id] [] [(id, f.message)])
      have hgone : gone (⟨id, s⟩ :: turns targets (after [id] s)) =
          gone (turns targets (after [id] s)) := by
        rw [gone, List.filter_cons_of_neg (by simp [hf])]
        rfl
      have hfailure : Turn.failure? ⟨id, s⟩ = some (id, f.message) := by
        rw [Turn.failure?, hf]
        rfl
      rw [← run, hrun, hgone, List.filterMap_cons_some hfailure]
      refine ⟨?_, .kept hkept hremoves⟩
      exact hrest.trans (by rw [accounted_cons]; rfl)

/-- Each target is either gone or accounted for. -/
theorem Removes.length_add {gone : List String} {lost : List (String × String)}
    (h : Removes targets gone lost s t) : gone.length + lost.length = targets.length := by
  induction h with
  | nil => rfl
  | gone _ _ ih => simp only [List.length_cons]; omega
  | kept _ _ ih => simp only [List.length_cons]; omega

/-- What is there no more was not there, or it has been removed. -/
theorem Removes.ids {gone : List String} {lost : List (String × String)} (ho : Orderly s)
    (h : Removes targets gone lost s t) (id : String) :
    some id ∉ ids t.items ↔ some id ∉ ids s.items ∨ id ∈ gone := by
  rw [h.items ho, ids_numbered, mem_ids_left, not_and_or, not_not]

/-- A place that is full for the first save. -/
def fullOnce : Call → List (Option Fault)
  | .save => [some (.store .write "full" (some "memory") none)]
  | _ => []

def strayFull : Shelf := { strayPatched with disk := strayPatched.disk, outages := fullOnce }

end Account

end LinkShelf.Shelf

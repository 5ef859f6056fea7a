import LinkShelf.Proofs.Store.Announcement
import Mathlib.Data.List.Perm.Subperm
/-!
Registrations of listeners, and the handles that end them. A listener may be registered more than
once, and a handle may be called more than once. What a shelf does at a call is to drop the first
entry of the listener, so a registration lives on as its handle says only if that entry is its own.
-/
namespace LinkShelf.Shelf

open LinkShelf.Act

/-- What happens to those who listen: one is registered, or the handle is called that came of a
registration, which is known by its number. -/
inductive Attendance where
  | joined (l : Listener)
  | left (handle : Nat)

/-- All that happened, the newest first. -/
abbrev Attendances := List Attendance

/-- The listeners of all registrations, by number. -/
def joined : Attendances → List Listener
  | [] => []
  | .joined l :: h => joined h ++ [l]
  | .left _ :: h => joined h

/-- The handles that were called. -/
def leavings : Attendances → List Nat
  | [] => []
  | .joined _ :: h => leavings h
  | .left i :: h => i :: leavings h

/-- The registrations whose handles were not called yet, in order. -/
def live : Attendances → List (Nat × Listener)
  | [] => []
  | .joined l :: h => live h ++ [((joined h).length, l)]
  | .left i :: h => (live h).filter fun r => r.1 ≠ i

/-- The listeners of the live registrations. -/
def attending (h : Attendances) : List Listener := (live h).map (·.2)

/-- At each call of a handle, the first live registration of the listener, if any, was that of the
handle. -/
def EachOwn : Attendances → Prop
  | [] => True
  | .joined _ :: h => EachOwn h
  | .left i :: h => EachOwn h ∧ ∀ l, (joined h)[i]? = some l →
      ∀ r, (live h).find? (·.2 = l) = some r → r.1 = i

variable {h : Attendances} {s t : Shelf} {l : Listener} {i : Nat}

section Live

theorem joined_of_live (hr : (i, l) ∈ live h) : (joined h)[i]? = some l := by
  induction h with
  | nil => simp [live] at hr
  | cons a h ih =>
    cases a with
    | left j => exact ih (List.mem_of_mem_filter hr)
    | joined k =>
      simp only [live, List.mem_append, List.mem_singleton, Prod.mk.injEq] at hr
      rw [joined]
      rcases hr with hr | ⟨rfl, rfl⟩
      · obtain ⟨hlt, hget⟩ := List.getElem?_eq_some_iff.mp (ih hr)
        rw [List.getElem?_append_left hlt]
        exact ih hr
      · simp

theorem live_of_joined (hl : (joined h)[i]? = some l) (hi : i ∉ leavings h) : (i, l) ∈ live h := by
  induction h with
  | nil => simp [joined] at hl
  | cons a h ih =>
    cases a with
    | left j =>
      rw [leavings, List.mem_cons, not_or] at hi
      exact List.mem_filter.mpr ⟨ih hl hi.2, by simpa using hi.1⟩
    | joined k =>
      rw [joined] at hl
      rw [live, List.mem_append, List.mem_singleton]
      by_cases hlt : i < (joined h).length
      · rw [List.getElem?_append_left hlt] at hl
        exact .inl (ih hl hi)
      · have hlen := (List.getElem?_eq_some_iff.mp hl).1
        rw [List.length_append, List.length_singleton] at hlen
        obtain rfl : i = (joined h).length := by omega
        rw [List.getElem?_concat_length] at hl
        cases hl
        exact .inr rfl

/-- No two live registrations have the same number. -/
theorem live_nodup (h : Attendances) : ((live h).map (·.1)).Nodup := by
  induction h with
  | nil => exact List.nodup_nil
  | cons a h ih =>
    cases a with
    | left j => exact ih.sublist (List.filter_sublist.map _)
    | joined k =>
      rw [live, List.map_append, List.map_singleton, List.nodup_append]
      refine ⟨ih, List.nodup_singleton _, fun j hj m hm => ?_⟩
      obtain ⟨⟨_, l⟩, hr, rfl⟩ := List.mem_map.mp hj
      obtain rfl := List.mem_singleton.mp hm
      exact Nat.ne_of_lt (List.getElem?_eq_some_iff.mp (joined_of_live hr)).1

/-- A call of a handle ends the live registration of its number and no other. -/
theorem live_left {before after : List (Nat × Listener)}
    (hlive : live h = before ++ (i, l) :: after) : live (.left i :: h) = before ++ after := by
  have hnodup := live_nodup h
  rw [hlive, List.map_append, List.map_cons, List.nodup_middle, List.nodup_cons] at hnodup
  have hothers : (before ++ after).filter (fun r => r.1 ≠ i) = before ++ after := by
    refine List.filter_eq_self.mpr fun r hr => ?_
    have hne : r.1 ≠ i := fun he => hnodup.1 (by
      rw [← List.map_append]
      exact List.mem_map.mpr ⟨r, hr, he⟩)
    simpa using hne
  rw [live, hlive, List.filter_append, List.filter_cons_of_neg (by simp), ← List.filter_append,
    hothers]

/-- A handle that was called before ends nothing any more. -/
theorem live_left_again (hl : (joined h)[i]? = some l) (hi : (i, l) ∉ live h) :
    live (.left i :: h) = live h := by
  rw [live, List.filter_eq_self]
  rintro ⟨j, k⟩ hr
  have hne : j ≠ i := by
    rintro rfl
    rw [joined_of_live hr] at hl
    cases hl
    exact hi hr
  simpa using hne

theorem attending_left (hi : (i, l) ∈ live h) :
    (attending (.left i :: h)).Perm ((attending h).erase l) := by
  obtain ⟨before, after, hlive⟩ := List.append_of_mem hi
  rw [attending, live_left hlive, attending, hlive, List.map_append, List.map_append,
    List.map_cons]
  have hmiddle := (@List.perm_middle _ l (before.map (·.2)) (after.map (·.2))).erase l
  rw [List.erase_cons_head] at hmiddle
  exact hmiddle.symm

/-- If the first live registration of the listener is its own, a handle ends what it should. -/
theorem attending_left_own (hl : (joined h)[i]? = some l)
    (hown : ∀ r, (live h).find? (·.2 = l) = some r → r.1 = i) :
    (attending h).erase l = attending (.left i :: h) := by
  cases hfind : (live h).find? (·.2 = l) with
  | none =>
    have hnone := List.find?_eq_none.mp hfind
    have hi : (i, l) ∉ live h := fun hi => hnone _ hi (by simp)
    have hgone : l ∉ attending h := by
      intro hmem
      obtain ⟨r, hr, rfl⟩ := List.mem_map.mp hmem
      exact hnone r hr (by simp)
    rw [List.erase_of_not_mem hgone, attending, attending, live_left_again hl hi]
  | some r =>
    obtain ⟨hr, before, after, hlive, hbefore⟩ := List.find?_eq_some_iff_append.mp hfind
    obtain rfl : r = (i, l) := Prod.ext (hown r hfind) (by simpa using hr)
    have hgone : l ∉ before.map (·.2) := by
      intro hmem
      obtain ⟨q, hq, he⟩ := List.mem_map.mp hmem
      have hne := hbefore q hq
      simp [he] at hne
    rw [attending, attending, live_left hlive, hlive, List.map_append, List.map_cons,
      List.erase_append_right _ hgone, List.erase_cons_head, List.map_append]

end Live

/-- The states of a shelf after what happened to those who listen, whatever was done to it in
between. -/
inductive Attended : Attendances → Shelf → Prop where
  | nobody {s : Shelf} (hs : s.listeners = []) : Attended [] s
  | op {h : Attendances} {s t : Shelf} {r : Except Fault Unit} (hs : Attended h s) (o : Op)
      (hrun : run o.act s = (r, t)) : Attended h t
  | surroundings {h : Attendances} {s : Shelf} (hs : Attended h s) (disk : Disk)
      (outages : Call → List (Option Fault)) : Attended h { s with disk, outages }
  | joined {h : Attendances} {s : Shelf} (hs : Attended h s) (l : Listener) :
      Attended (.joined l :: h) (s.subscribe l)
  | left {h : Attendances} {s : Shelf} {i : Nat} {l : Listener} (hs : Attended h s)
      (hl : (joined h)[i]? = some l) : Attended (.left i :: h) (s.unsubscribe l)

namespace Attended

/-- No listener is told more often than it is registered. -/
theorem subperm (hs : Attended h s) : s.listeners.Subperm (attending h) := by
  induction hs with
  | nobody hs => rw [hs]; exact List.nil_subperm
  | op _ o hrun ih => rwa [(listeners_op o _).state hrun]
  | surroundings _ _ _ ih => exact ih
  | joined _ l ih =>
    rw [attending, live, List.map_append]
    exact ih.append (List.Subperm.refl [l])
  | @left h s i l _ hl ih =>
    by_cases hi : (i, l) ∈ live h
    · exact (ih.erase l).trans (attending_left hi).symm.subperm
    · rw [attending, live_left_again hl hi]
      exact (List.erase_sublist.subperm).trans ih

/-- If no handle is called twice, all that is wrong is the order. -/
theorem perm (hs : Attended h s) (honce : (leavings h).Nodup) :
    s.listeners.Perm (attending h) := by
  induction hs with
  | nobody hs => rw [hs]; exact .nil
  | op _ o hrun ih =>
    rw [(listeners_op o _).state hrun]
    exact ih honce
  | surroundings _ _ _ ih => exact ih honce
  | joined _ l ih =>
    rw [attending, live, List.map_append]
    exact (ih honce).append_right [l]
  | @left h s i l _ hl ih =>
    obtain ⟨hi, honce⟩ := List.nodup_cons.mp honce
    exact ((ih honce).erase l).trans (attending_left (live_of_joined hl hi)).symm

theorem exact (hs : Attended h s) (hown : EachOwn h) : s.listeners = attending h := by
  induction hs with
  | nobody hs => exact hs
  | op _ o hrun ih =>
    rw [(listeners_op o _).state hrun]
    exact ih hown
  | surroundings _ _ _ ih => exact ih hown
  | joined _ l ih =>
    rw [attending, live, List.map_append]
    exact congrArg (· ++ [l]) (ih hown)
  | @left h s i l _ hl ih =>
    rw [← attending_left_own hl (hown.2 l hl), ← ih hown.1]
    rfl

end Attended

/-- Of every change, those who listen are told once each, in order, with the whole collection, and
of a failed one nobody is. Those are the live registrations, if each call of a handle came when the
first live registration of the listener was its own; they are in another order at most, if no handle
was called twice; and in any case they are among them. -/
theorem changes_told_to_live (hs : Attended h s) : Announces s ∧
    (EachOwn h → s.listeners = attending h) ∧
    ((leavings h).Nodup → s.listeners.Perm (attending h)) ∧
    s.listeners.Subperm (attending h) :=
  ⟨announces s, hs.exact, hs.perm, hs.subperm⟩

section Example

def ann : Listener := .other "ann"

def bob : Listener := .other "bob"

/-- The first of two registrations is ended, with another listener's between them. -/
def firstLeft : Attendances := [.left 0, .joined ann, .joined bob, .joined ann]

def firstLeftShelf : Shelf :=
  ((((({ supply := unary } : Shelf).subscribe ann).subscribe bob).subscribe ann).unsubscribe ann)

theorem firstLeft_attended : Attended firstLeft firstLeftShelf :=
  .left (.joined (.joined (.joined (.nobody rfl) ann) bob) ann) rfl

theorem firstLeft_told : EachOwn firstLeft ∧ (leavings firstLeft).Nodup ∧
    attending firstLeft = [bob, ann] ∧ Announces firstLeftShelf ∧
    firstLeftShelf.listeners = attending firstLeft ∧
    firstLeftShelf.listeners.Perm (attending firstLeft) := by
  have hown : EachOwn firstLeft := by
    refine ⟨trivial, fun l hl r hr => ?_⟩
    cases hl
    cases hr
    rfl
  have honce : (leavings firstLeft).Nodup := by decide
  obtain ⟨hannounces, hexact, hperm, -⟩ := changes_told_to_live firstLeft_attended
  exact ⟨hown, honce, rfl, hannounces, hexact hown, hperm honce⟩

/-- The handle of the first of two registrations is called twice. -/
def leftAgain : Attendances := [.left 0, .left 0, .joined ann, .joined ann]

def leftAgainShelf : Shelf :=
  ((((({ supply := unary } : Shelf).subscribe ann).subscribe ann).unsubscribe ann).unsubscribe ann)

/-- Two bookmarks and one listener; the second time the collection is to be saved, it fails. -/
def tornShelf : Shelf :=
  { (run (fill [{}, {}]) { supply := unary }).2.subscribe ann with
    outages := fun c => if c = .save then [none, some (.foreign .other "RuntimeError" "odd")] else [] }

/-- After the second call the other registration is still live, but nobody is told of a bookmark
that is new. Of a removal that fails part way, the listener is told all the same. -/
theorem leftAgain_untold : Attended leftAgain leftAgainShelf ∧ attending leftAgain = [ann] ∧
    (run (create "now" {}) leftAgainShelf).1.isOk = true ∧
    (run (create "now" {}) leftAgainShelf).2.notices.map (·.listener) = [] ∧
    (run (removeAll ["x", "xx"]) tornShelf).1.isOk = false ∧
    (run (removeAll ["x", "xx"]) tornShelf).2.notices.map (·.listener) = [ann] := by
  refine ⟨?_, rfl, ?_, ?_, ?_, ?_⟩
  · exact .left (.left (.joined (.joined (.nobody rfl) ann) ann) rfl) rfl
  · decide +kernel
  · decide +kernel
  · decide +kernel
  · decide +kernel

end Example

end LinkShelf.Shelf

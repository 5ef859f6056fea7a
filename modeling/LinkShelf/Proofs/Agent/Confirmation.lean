import LinkShelf.Proofs.Agent.Course
import LinkShelf.Proofs.Agent.Storing
import LinkShelf.Proofs.Store.Trouble
/-!
What the user is told of a confirmed deletion. Each staged bookmark is removed in a commit of its
own, and any of these may fail; the number that is told and handed back is that of those that went,
unless the collection cannot be listed afterwards.
-/
namespace LinkShelf.Session

open LinkShelf.Act
open LinkShelf.Shelf (Troubled Spent Orderly Removes)

variable {s t : Session} {v : List Bookmark}

/-- As many bookmarks have left the shelf. -/
def Fewer (n : Nat) (s t : Session) : Prop :=
  n + t.shelf.items.length = s.shelf.items.length

/-- All removals are tried, and counted if they succeed. -/
theorem ends_removeAll_counted (hs : Orderly s.shelf) (htrouble : s.shelf.Troubled)
    (targets : List String) : Ends (onShelf (Shelf.removeAll targets)) s
      (fun r t => Aside s t ∧ Fewer r.succeeded s t ∧ t.shelf.due .list = s.shelf.due .list)
      (fun f t => f.isStore = true ∧ Aside s t ∧ Fewer 0 s t) := by
  have hboth := (Shelf.ends_removeAll_each targets hs).and (Shelf.spent_removeAll htrouble targets)
  refine (ends_onShelf hboth).mono ?_ ?_
  · rintro _ _ ⟨u, rfl, ⟨gone, lost, hremoves, rfl⟩, hspent⟩
    refine ⟨rfl, ?_, hspent.due⟩
    have hlength := hremoves.length_items hs
    simpa [Fewer, Shelf.accounted, withShelf] using hlength
  · rintro f _ ⟨u, rfl, -, hf, hmet, -⟩
    refine ⟨hf, rfl, ?_⟩
    show 0 + u.items.length = s.shelf.items.length
    rw [hmet.kept.items, Nat.zero_add]

theorem ends_list_met (s : Session) : Ends (onShelf Shelf.list) s
    (fun bs t => Aside s t ∧ s.shelf.due .list = none ∧ bs = t.shelf.items ∧
      t.shelf.items = s.shelf.items)
    (fun f t => Aside s t ∧ s.shelf.due .list = some f) := by
  refine (ends_onShelf (Shelf.ends_list_due s.shelf)).mono ?_ ?_
  · rintro _ _ ⟨u, rfl, hdue, rfl, hk⟩
    exact ⟨rfl, hdue, hk.items.symm, hk.items⟩
  · rintro f _ ⟨u, rfl, hdue, -⟩
    exact ⟨rfl, hdue⟩

/-- A confirmation that goes through says what it has done. -/
structure Confirmed (n : Nat) (s t : Session) : Prop where
  fewer : Fewer n s t
  listed : s.shelf.due .list = none
  snapshot : t.snapshot = t.shelf.items
  events : t.events =
    s.events ++ [.message ⟨"Deleted " ++ toString n ++ " bookmark(s).", .success⟩]

theorem due_isStore (h : s.shelf.Troubled) {f : Fault} (hf : s.shelf.due .list = some f) :
    f.isStore = true := by
  refine h.due .list f ?_
  unfold Shelf.due at hf
  cases hout : s.shelf.outages .list with
  | nil => simp [hout] at hf
  | cons outcome rest =>
    rw [hout] at hf
    have hsome : outcome = some f := hf
    simp [hsome]

theorem ends_deletePending_counted (hs : Orderly s.shelf) (htrouble : s.shelf.Troubled)
    (targets : List String) : Ends (deletePending targets) s
      (fun n t => Confirmed n s t)
      (fun f t => f.isStore = true ∧ t.events = s.events ∧
        (s.shelf.due .list = none → Fewer 0 s t)) := by
  unfold deletePending
  refine ((ends_removeAll_counted hs htrouble targets).mono (fun _ _ h => h) ?_).bind ?_
  · rintro f t ⟨hf, haside, hfewer⟩
    exact ⟨hf, by rw [haside], fun _ => hfewer⟩
  rintro r t ⟨haside, hfewer, hdue⟩
  refine ((ends_list_met t).mono (fun _ _ h => h) ?_).bind ?_
  · rintro f w ⟨haside', hf⟩
    rw [hdue] at hf
    exact ⟨due_isStore htrouble hf, by rw [haside', haside], fun hnone => by simp [hf] at hnone⟩
  rintro bs w ⟨haside', hnone, rfl, hitems⟩
  rw [ends_modify_bind, ends_modify_bind, ends_modify_bind, ends_pure]
  refine ⟨?_, hdue ▸ hnone, rfl, ?_⟩
  · unfold Fewer at hfewer ⊢
    rw [← hfewer, ← hitems]
    rfl
  · have hevents : w.events = s.events := by rw [haside', haside]
    rw [← hevents]
    rfl

/-- What is handed back and told agrees with what has left the shelf. -/
structure Accounts (n : Nat) (s t : Session) : Prop where
  listed : s.shelf.due .list = none → Fewer n s t
  unlisted : s.shelf.due .list ≠ none → n = 0
  told : ToldSuccess s t → t.snapshot = t.shelf.items ∧ Fewer n s t

theorem Confirmed.accounts {n : Nat} (h : Confirmed n s t) : Accounts n s t :=
  ⟨fun _ => h.fewer, fun hdue => absurd h.listed hdue, fun _ => ⟨h.snapshot, h.fewer⟩⟩

theorem ends_confirm_counted (hs : Orderly s.shelf) (htrouble : s.shelf.Troubled) :
    Ends confirm s (fun n t => Accounts n s t) (fun _ _ => False) := by
  unfold confirm
  rw [ends_get_bind]
  cases hp : s.pending.isEmpty with
  | true =>
    simp only [hp, if_true, ends_pure]
    refine ⟨fun _ => Nat.zero_add _, fun _ => rfl, ?_⟩
    rintro ⟨m, hm, -⟩
    rw [List.drop_length] at hm
    cases hm
  | false =>
    simp only [hp, Bool.false_eq_true, if_false]
    have hdelete := (ends_deletePending_counted hs htrouble s.pending).mono
      (fun _ _ h => h.accounts) fun _ _ h => h
    refine hdelete.tryCatch ?_
    rintro f t ⟨hf, hevents, hfewer⟩
    rw [ends_modify_bind]
    simp only [hf, Bool.not_true, Bool.false_eq_true, if_false]
    rw [ends_modify_bind, ends_modify_bind, ends_pure]
    refine ⟨hfewer, fun _ => rfl, fun htold => ?_⟩
    obtain ⟨m, hm, hlevel⟩ := (toldSuccess_iff (by rw [← hevents]; rfl)).mp htold
    rw [← Event.message.inj hm] at hlevel
    cases hlevel

section Twins

/-- One call for the collection fails. -/
def unlisted : Call → List (Option Fault)
  | .list => [some (.store .read "gone" none none)]
  | _ => []

@[irreducible] def twinUnlisted : Session :=
  { twinStaged with shelf := { twinStaged.shelf with disk := {}, outages := unlisted } }

theorem twinUnlisted_course :
    Course ((Move.submit "twice" twinReply).viewAfter [] twinSeen) twinUnlisted := by
  unfold twinUnlisted
  exact twinStaged_course.surroundings {} unlisted

theorem twinUnlisted_troubled : twinUnlisted.shelf.Troubled := by
  have hdue : twinUnlisted.shelf.outages = unlisted := by
    unfold twinUnlisted
    rfl
  have hmemory : twinUnlisted.shelf.medium = .memory := by
    unfold twinUnlisted
    exact twinStaged_memory
  refine ⟨fun c f hf => ?_, ?_⟩
  · rw [hdue] at hf
    cases c with
    | list =>
      rw [Option.some.inj (List.mem_singleton.mp hf)]
      rfl
    | _ => cases hf
  · rw [hmemory]
    trivial

end Twins

end LinkShelf.Session

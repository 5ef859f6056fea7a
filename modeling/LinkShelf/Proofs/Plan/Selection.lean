import LinkShelf.Act
import LinkShelf.Plan.Run
import Mathlib.Data.List.Perm.Subperm
/-!
A plan selects: what it comes to is some of the bookmarks of its source, each as often as it is
there at most. Only sorts change their order, and only a limit on everything looks behind the steps
before it.
-/
namespace LinkShelf

namespace MergeSort

variable {α : Type} (cmp : α → α → Ordering)

theorem merge_perm (xs ys : List α) : (merge cmp xs ys).Perm (xs ++ ys) := by
  fun_induction merge cmp xs ys with
  | case1 ys => exact .refl _
  | case2 xs => simp
  | case3 x xs y ys hlt ih => exact (ih.cons y).trans List.perm_middle.symm
  | case4 x xs y ys hle ih => exact ih.cons x

theorem sort_perm (xs : List α) : (sort cmp xs).Perm xs := by
  fun_induction sort cmp xs with
  | case1 xs h => exact .refl _
  | case2 xs h ih₁ ih₂ =>
    have hparts := (merge_perm cmp _ _).trans (ih₁.append ih₂)
    rwa [List.take_append_drop] at hparts

end MergeSort

namespace Bookmark

theorem keyed_snd {key : String} {bs : List Bookmark} {ps : List (SortValue × Bookmark)}
    (h : keyed key bs = .ok ps) : ps.map Prod.snd = bs := by
  induction bs generalizing ps with
  | nil =>
    cases h
    rfl
  | cons b bs ih =>
    unfold keyed at h ih
    rw [List.mapM_cons] at h
    obtain ⟨p, hp, h⟩ := bind_eq_ok.mp h
    obtain ⟨qs, hqs, h⟩ := bind_eq_ok.mp h
    obtain ⟨v, -, hv⟩ := bind_eq_ok.mp hp
    cases h
    cases hv
    rw [List.map_cons, ih hqs]

theorem sortBy_perm {c : Criterion} {bs cs : List Bookmark} (h : sortBy c bs = .ok cs) :
    cs.Perm bs := by
  unfold sortBy at h
  split at h
  · cases h
    exact .refl _
  · obtain ⟨ps, hps, h⟩ := bind_eq_ok.mp h
    cases h
    have hsorted := (MergeSort.sort_perm
      (fun x y : SortValue × Bookmark => SortValue.compareBy c.ascending x.1 y.1) ps).map Prod.snd
    rwa [keyed_snd hps] at hsorted

theorem limit_sublist {α : Type} (last : Bool) (count : Int) (bs : List α) :
    (limit last count bs).Sublist bs := by
  unfold limit
  split
  · exact .refl _
  · split
    · exact List.drop_sublist _ _
    · exact List.take_sublist _ _

theorem limitBy_sublist {last : Bool} {count : Json} {bs cs : List Bookmark}
    (h : limitBy last count bs = .ok cs) : cs.Sublist bs := by
  obtain ⟨n, -, h⟩ := bind_eq_ok.mp h
  cases h
  exact limit_sublist last n bs

end Bookmark

namespace Step

variable {s : Step} {a : Action} {ps : Members} {source base current bs : List Bookmark}

theorem action_of_known (h : s.known = some a) : s.action = a.name := by
  have hname : a.name = s.action := by simpa using List.find?_some h
  exact hname.symm

def sorts (s : Step) : Prop := s.action = Action.sortBookmarks.name

/-- A limit on all that was there before the plan, and not on what has come of it so far. -/
def startsOver (s : Step) : Prop :=
  s.action = Action.limitResults.name ∧ isText (s.parameters.get "scope") "all" = true

/-- A sort rearranges the list. Any other action leaves out some of it, or some of the source. -/
theorem perform_ok (h : perform a ps source current = .ok bs) :
    (a = .sortBookmarks ∧ bs.Perm current) ∨ bs.Sublist current ∨
      (a = .limitResults ∧ isText (ps.get "scope") "all" = true) ∧ bs.Sublist source := by
  unfold perform at h
  cases hf : filter? a ps with
  | some f =>
    simp only [hf] at h
    obtain ⟨f, -, h⟩ := bind_eq_ok.mp h
    cases h
    exact .inr (.inl List.filter_sublist)
  | none =>
    simp only [hf] at h
    split at h
    · exact .inl ⟨rfl, Bookmark.sortBy_perm h⟩
    · have hlimit := Bookmark.limitBy_sublist h
      split at hlimit
      · exact .inr (.inr ⟨⟨rfl, ‹_›⟩, hlimit⟩)
      · exact .inr (.inl hlimit)
    · exact .inr (.inl (Bookmark.limitBy_sublist h))
    · exact .inr (.inl (Bookmark.limitBy_sublist h))
    · cases h
      exact .inr (.inl (.refl _))

/-- What a step makes of a list, whether it goes through or not. -/
theorem apply_cases (source current : List Bookmark) (s : Step) :
    (s.sorts ∧ (apply source current s).Perm current) ∨ (apply source current s).Sublist current ∨
      s.startsOver ∧ (apply source current s).Sublist source := by
  unfold apply
  cases hk : s.known with
  | none => exact .inr (.inl (.refl _))
  | some a =>
    have hname := action_of_known hk
    cases hp : perform a s.parameters source current with
    | error e =>
      simp only [hp]
      exact .inr (.inl (.refl _))
    | ok bs =>
      simp only [hp]
      rcases perform_ok hp with ⟨rfl, hbs⟩ | hbs | ⟨⟨rfl, hall⟩, hbs⟩
      · exact .inl ⟨hname, hbs⟩
      · exact .inr (.inl hbs)
      · exact .inr (.inr ⟨⟨hname, hall⟩, hbs⟩)

theorem apply_subperm (hc : current.Subperm source) (s : Step) :
    (apply source current s).Subperm source := by
  rcases apply_cases source current s with ⟨-, h⟩ | h | ⟨-, h⟩
  · exact h.subperm.trans hc
  · exact h.subperm.trans hc
  · exact h.subperm

theorem apply_sublist (hs : ¬s.sorts) (hc : current.Sublist source) :
    (apply source current s).Sublist source := by
  rcases apply_cases source current s with ⟨h, -⟩ | h | ⟨-, h⟩
  · exact absurd h hs
  · exact h.trans hc
  · exact h

/-- Only a step that starts over looks at the source. -/
theorem apply_base (hs : ¬s.startsOver) (source base current : List Bookmark) :
    apply source current s = apply base current s := by
  unfold apply
  cases hk : s.known with
  | none => rfl
  | some a =>
    have hsame : perform a s.parameters source current = perform a s.parameters base current := by
      unfold perform
      cases hf : filter? a s.parameters with
      | some f => rfl
      | none =>
        cases a with
        | limitResults =>
          have hall : ¬isText (s.parameters.get "scope") "all" = true :=
            fun h => hs ⟨action_of_known hk, h⟩
          simp only [if_neg hall]
        | _ => rfl
    simp only [hsame]

end Step

namespace Plan

/-- Whatever a plan says, it comes to some of the bookmarks of its source. -/
theorem run_subperm (p : Plan) (source : List Bookmark) : (run p source).Subperm source := by
  have hfold : ∀ (steps : Plan) (current : List Bookmark), current.Subperm source →
      (steps.foldl (Step.apply source) current).Subperm source := by
    intro steps
    induction steps with
    | nil => exact fun _ hc => hc
    | cons s steps ih => exact fun _ hc => ih _ (Step.apply_subperm hc s)
  exact hfold p source (.refl source)

/-- Where nothing is sorted, the order of the source is kept. -/
theorem run_sublist {p : Plan} (hp : ∀ s ∈ p, ¬s.sorts) (source : List Bookmark) :
    (run p source).Sublist source := by
  have hfold : ∀ current : List Bookmark, current.Sublist source →
      (p.foldl (Step.apply source) current).Sublist source := by
    induction p with
    | nil => exact fun _ hc => hc
    | cons s p ih =>
      have hs := hp s List.mem_cons_self
      have hrest := ih fun t ht => hp t (List.mem_cons_of_mem s ht)
      exact fun _ hc => hrest _ (Step.apply_sublist hs hc)
  exact hfold source (.refl source)

/-- Steps of which none starts over go on with what the steps before them came to. -/
theorem run_append {q : Plan} (hq : ∀ s ∈ q, ¬s.startsOver) (p : Plan) (source : List Bookmark) :
    run (p ++ q) source = run q (run p source) := by
  have hfold : ∀ base current : List Bookmark,
      q.foldl (Step.apply source) current = q.foldl (Step.apply base) current := by
    intro base
    induction q with
    | nil => exact fun _ => rfl
    | cons s q ih =>
      intro current
      have hs := Step.apply_base (hq s List.mem_cons_self) source base current
      rw [List.foldl_cons, List.foldl_cons, hs]
      exact ih (fun t ht => hq t (List.mem_cons_of_mem s ht)) _
  have hsplit : run (p ++ q) source = q.foldl (Step.apply source) (run p source) :=
    List.foldl_append
  rw [hsplit, hfold (run p source)]
  rfl

/-- A plan selects and rearranges: each bookmark of the source comes at most as often as it is
there, and in its order unless the plan sorts. What follows a first part, and does not start over,
is run over what that part came to, so it brings nothing back. -/
theorem run_selects (p : Plan) (source : List Bookmark) :
    (run p source).Subperm source ∧
      ((∀ s ∈ p, ¬s.sorts) → (run p source).Sublist source) ∧
      ∀ q : Plan, (∀ s ∈ q, ¬s.startsOver) →
        run (p ++ q) source = run q (run p source) ∧
          (run (p ++ q) source).Subperm (run p source) ∧
          (run (p ++ q) source).length ≤ (run p source).length := by
  refine ⟨run_subperm p source, fun hp => run_sublist hp source, fun q hq => ?_⟩
  have hsplit := run_append hq p source
  have hless : (run (p ++ q) source).Subperm (run p source) := by
    rw [hsplit]
    exact run_subperm q (run p source)
  exact ⟨hsplit, hless, hless.length_le⟩

section Example

def best : Plan :=
  [{ action := "sortBookmarks", parameters := [("sortBy", .str "rating"), ("order", .str "desc")] },
    { action := "limitFirst", parameters := [("count", .int 2)] }]

/-- The last one of what is there; what stands around that step does nothing. -/
def lastOne : Plan :=
  [{ action := "unheardOf" }, { action := "limitResults", parameters := [("count", .str "1"),
      ("direction", .str "last"), ("scope", .str "current")] }, { action := "removeDuplicates" }]

def rated : List Bookmark :=
  [{ id := some "a", rating := 1 }, { id := some "b", rating := 4 },
    { id := some "c", rating := 5 }]

theorem lastOne_selects : (∀ s ∈ lastOne, ¬s.sorts ∧ ¬s.startsOver) ∧
    (run lastOne rated).Sublist rated ∧
    run (best ++ lastOne) rated = run lastOne (run best rated) ∧
    (run (best ++ lastOne) rated).map (·.id) = [some "b"] := by
  have hsorts : ∀ s ∈ lastOne, ¬s.sorts := by simp [lastOne, Step.sorts, Action.name]
  have hover : ∀ s ∈ lastOne, ¬s.startsOver := by
    simp [lastOne, Step.startsOver, Action.name, Members.get, Members.get?,
      List.lookup_cons, Step.isText]
  exact ⟨fun s hs => ⟨hsorts s hs, hover s hs⟩, (run_selects lastOne rated).2.1 hsorts,
    ((run_selects best rated).2.2 lastOne hover).1, by decide +kernel⟩

end Example

end Plan

end LinkShelf

import LinkShelf.Proofs.Stable
/-!
Filters and sorts can change places. A filter says of each bookmark by itself whether it stays, and
sorting is stable; so filters and sorts come to what the sorts alone make of the source, less what
any of the filters leaves out.
-/
namespace LinkShelf

/-- Actions that say of each bookmark whether it stays. -/
def Action.filters : Action → Bool
  | .searchBookmarks | .findIncludes | .findStartsWith | .findWithTags | .filterByRating => true
  | _ => false

theorem Action.shapesView_of_filters (a : Action) : a.filters = true → a.shapesView = true := by
  cases a <;> decide

namespace Step

variable {s : Step} {a : Action} {ps : Members} {source current : List Bookmark} {b : Bookmark}

def filters (s : Step) : Prop := s.is Action.filters = true

instance (s : Step) : Decidable s.sorts := inferInstanceAs (Decidable (_ = _))

/-- A step that does nothing to the view: it acts outside of it, or means nothing. -/
def Idle (s : Step) : Prop := ∀ a, s.known = some a → a.shapesView = false

/-- Whether a bookmark stays. A filter that cannot be made out lets all of them stay. -/
def admits (s : Step) (b : Bookmark) : Bool :=
  match s.known.bind (filter? · s.parameters) with
  | some (.ok f) => f.admits b
  | _ => true

/-- What a sort step sorts by. -/
def criterion (s : Step) : Criterion :=
  .ofJson (s.parameters.get "sortBy") (s.parameters.get "order")

theorem filters_iff : s.filters ↔ ∃ a, s.known = some a ∧ a.filters = true := by
  unfold filters is
  cases s.known <;> simp

theorem isSome_filter? (a : Action) (ps : Members) : (filter? a ps).isSome = a.filters := by
  cases a <;> rfl

theorem apply_filters (h : s.filters) : apply source current s = current.filter s.admits := by
  obtain ⟨a, hknown, ha⟩ := filters_iff.mp h
  obtain ⟨r, hr⟩ := Option.isSome_iff_exists.mp ((isSome_filter? a s.parameters).trans ha)
  unfold apply perform
  simp only [hknown, hr]
  cases r with
  | ok f =>
    have hadmits : s.admits = f.admits := by
      funext b
      rw [admits, hknown, Option.bind_some, hr]
    rw [hadmits]
    rfl
  | error e =>
    have hadmits : s.admits = fun _ => true := by
      funext b
      rw [admits, hknown, Option.bind_some, hr]
    rw [hadmits, List.filter_true]
    rfl

theorem admits_of_not_filters (h : ¬s.filters) (b : Bookmark) : s.admits b = true := by
  unfold admits
  cases hknown : s.known with
  | none => rfl
  | some a =>
    have hnone : filter? a s.parameters = none := by
      rw [← Option.not_isSome_iff_eq_none, isSome_filter?]
      exact fun ha => h (filters_iff.mpr ⟨a, hknown, ha⟩)
    rw [Option.bind_some, hnone]

theorem Idle.not_filters (h : s.Idle) : ¬s.filters := by
  intro hf
  obtain ⟨a, hknown, ha⟩ := filters_iff.mp hf
  exact Bool.false_ne_true ((h a hknown).symm.trans (a.shapesView_of_filters ha))

theorem perform_of_not_shapesView (h : a.shapesView = false) :
    perform a ps source current = .ok current := by
  revert h
  cases a <;> first | exact fun _ => rfl | exact fun h => absurd h (by decide)

theorem apply_idle (h : s.Idle) : apply source current s = current := by
  unfold apply
  cases hknown : s.known with
  | none => rfl
  | some a =>
    simp only [perform_of_not_shapesView (h a hknown)]

theorem known_of_sorts (h : s.sorts) : s.known = some .sortBookmarks := by
  have hname : Action.ofName? Action.sortBookmarks.name = some .sortBookmarks := by decide
  rw [known, h, hname]

theorem Idle.not_sorts (h : s.Idle) : ¬s.sorts := by
  intro hs
  cases h _ (known_of_sorts hs)

theorem not_filters (h : s.sorts) : ¬s.filters := by
  intro hf
  obtain ⟨a, hknown, ha⟩ := filters_iff.mp hf
  rw [known_of_sorts h] at hknown
  cases hknown
  cases ha

theorem apply_sorts (h : s.sorts) (hc : ∀ b ∈ current, b.Timed) :
    apply source current s = MergeSort.sort (Bookmark.compareFor s.criterion) current := by
  have hsort := Bookmark.sortBy_eq (c := s.criterion) hc
  have hperform : perform .sortBookmarks s.parameters source current =
      .ok (MergeSort.sort (Bookmark.compareFor s.criterion) current) := hsort
  unfold apply
  simp only [known_of_sorts h, hperform]

end Step

namespace Plan

variable {p q : Plan} {source current : List Bookmark}

/-- The sort steps of a plan in their order. -/
def sortSteps (p : Plan) : Plan := p.filter fun s => s.sorts

theorem sorts_of_mem_sortSteps {s : Step} (h : s ∈ sortSteps p) : s.sorts :=
  of_decide_eq_true (List.mem_filter.mp h).2

/-- What is left out before all sorts may as well be left out after them. -/
theorem foldl_sorts_filter (hp : ∀ s ∈ p, s.sorts) (hc : ∀ b ∈ current, b.Timed)
    (keep : Bookmark → Bool) :
    p.foldl (Step.apply source) (current.filter keep) =
      (p.foldl (Step.apply source) current).filter keep := by
  induction p generalizing current with
  | nil => rfl
  | cons s p ih =>
    have hs := hp s List.mem_cons_self
    have hpart : ∀ b ∈ current.filter keep, b.Timed := fun b hb => hc b (List.mem_of_mem_filter hb)
    have hswap : Step.apply source (current.filter keep) s =
        (Step.apply source current s).filter keep := by
      rw [Step.apply_sorts hs hpart, Step.apply_sorts hs hc,
        MergeSort.sort_filter (Bookmark.orders_compareFor _) hc]
    have hsorted : ∀ b ∈ Step.apply source current s, b.Timed := by
      rw [Step.apply_sorts hs hc]
      exact fun b hb => hc b ((MergeSort.sort_perm _ _).subset hb)
    rw [List.foldl_cons, List.foldl_cons, hswap]
    exact ih (fun t ht => hp t (List.mem_cons_of_mem s ht)) hsorted

/-- The sorts do their work as if there were no filters, and the filters theirs as if there were no
order. -/
theorem foldl_eq_filter (hp : ∀ s ∈ p, s.filters ∨ s.sorts ∨ s.Idle) (hc : ∀ b ∈ current, b.Timed) :
    p.foldl (Step.apply source) current =
      ((sortSteps p).foldl (Step.apply source) current).filter
        fun b => p.all fun s => s.admits b := by
  induction p generalizing current with
  | nil => exact (List.filter_true current).symm
  | cons s p ih =>
    have hrest := fun t ht => hp t (List.mem_cons_of_mem s ht)
    rcases hp s List.mem_cons_self with hs | hs | hs
    · have hpart : ∀ b ∈ current.filter s.admits, b.Timed := fun b hb =>
        hc b (List.mem_of_mem_filter hb)
      have hsteps : sortSteps (s :: p) = sortSteps p :=
        List.filter_cons_of_neg fun h => Step.not_filters (of_decide_eq_true h) hs
      rw [List.foldl_cons, Step.apply_filters hs, ih hrest hpart, hsteps,
        foldl_sorts_filter (fun t ht => sorts_of_mem_sortSteps ht) hc, List.filter_filter]
      simp only [List.all_cons, Bool.and_comm]
    · have hsorted : ∀ b ∈ Step.apply source current s, b.Timed := by
        rw [Step.apply_sorts hs hc]
        exact fun b hb => hc b ((MergeSort.sort_perm _ _).subset hb)
      have hsteps : sortSteps (s :: p) = s :: sortSteps p :=
        List.filter_cons_of_pos (decide_eq_true hs)
      rw [List.foldl_cons, ih hrest hsorted, hsteps, List.foldl_cons]
      simp only [List.all_cons, Step.admits_of_not_filters (Step.not_filters hs), Bool.true_and]
    · have hsteps : sortSteps (s :: p) = sortSteps p :=
        List.filter_cons_of_neg fun h => hs.not_sorts (of_decide_eq_true h)
      rw [List.foldl_cons, Step.apply_idle hs, ih hrest hc, hsteps]
      simp only [List.all_cons, Step.admits_of_not_filters hs.not_filters, Bool.true_and]

section Example

def byRating : Step :=
  { action := "sortBookmarks", parameters := [("sortBy", .str "stars"), ("order", .str "desc")] }

def byAge : Step := { action := "sortBookmarks", parameters := [("sortBy", .str "created")] }

def withTea : Step := { action := "searchBookmarks", parameters := [("searchTerm", .str "TEA")] }

/-- A filter whose parameters cannot be used. -/
def unusable : Step := { action := "findIncludes", parameters := [("field", .arr [])] }

/-- Two are of the same time under different offsets. -/
def teas : List Bookmark :=
  [{ id := some "a", title := .str "Tea", rating := 2,
     createdAt := .str "2024-01-01T12:00:00+02:00" },
    { id := some "b", title := .str "Coffee", rating := 5 },
    { id := some "c", title := .str "Green tea", rating := 4,
      createdAt := .str "2024-01-01T10:00:00Z" },
    { id := some "d", title := .str "Tea time", createdAt := .str "1999-12-31" }]

theorem teas_timed : ∀ b ∈ teas, b.Timed := by
  simp only [teas, List.forall_mem_cons]
  refine ⟨?_, ?_, ?_, ?_, nofun⟩
  · exact ⟨.inr ⟨_, rfl⟩, .inl rfl⟩
  · exact ⟨.inl rfl, .inl rfl⟩
  · exact ⟨.inr ⟨_, rfl⟩, .inl rfl⟩
  · exact ⟨.inr ⟨_, rfl⟩, .inl rfl⟩

end Example

end Plan

end LinkShelf

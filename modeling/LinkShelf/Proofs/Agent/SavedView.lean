import LinkShelf.Proofs.Agent.SavedOrder
import LinkShelf.Proofs.Plan.Arranged
import LinkShelf.Proofs.Plan.Rearranged
/-!
Storing the order that is shown does not change what is shown. Before it, the plan sorts what its
first filters leave of the collection; after it, the collection is sorted and the plan sorts nothing
any more. Filters may as well come after a sort, and neither they nor limits look at the places,
which are all that storing an order changes of a bookmark.
-/
namespace LinkShelf

namespace Filter

/-- A filter on the texts of the places. -/
def goesByPlace : Filter → Prop
  | .contains field _ | .startsWith field _ => field = "position"
  | _ => False

theorem admits_unplaced {f : Filter} (h : ¬f.goesByPlace) (b : Bookmark) :
    f.admits b.unplaced = f.admits b := by
  have htext (name : String) (hname : name ≠ "position") : b.unplaced.textOf name = b.textOf name :=
    Bookmark.textOf_unplaced hname b
  have htags : loweredTags b.unplaced = loweredTags b := rfl
  cases f with
  | search term =>
    simp only [admits, searchedFields, List.any_cons, List.any_nil, htags,
      htext "title" (by decide), htext "url" (by decide), htext "description" (by decide)]
  | contains field value => simp only [admits, htext field h]
  | startsWith field value => simp only [admits, htext field h, htags]
  | tagged | rated => rfl

end Filter

namespace Bookmark

theorem limit_map {α β : Type} (f : α → β) (last : Bool) (n : Int) (xs : List α) :
    limit last n (xs.map f) = (limit last n xs).map f := by
  unfold limit
  split
  · rfl
  · split
    · rw [List.length_map, List.map_drop]
    · rw [List.map_take]

/-- A count that cannot be read limits as little as one below one. -/
theorem exists_limit (last : Bool) (count : Json) :
    ∃ n, ∀ bs, (limitBy last count bs).toOption.getD bs = limit last n bs := by
  unfold limitBy
  cases Parameter.count count with
  | ok n => exact ⟨n, fun _ => rfl⟩
  | error e => exact ⟨0, fun _ => rfl⟩

end Bookmark

namespace Step

open LinkShelf.Shelf (contents)

variable {s : Step} {source base current : List Bookmark} {b : Bookmark}

def goesByPlace (s : Step) : Prop :=
  ∃ f : Filter, s.known.bind (filter? · s.parameters) = some (.ok f) ∧ f.goesByPlace

/-- A step that neither orders anything nor looks at the places. It goes on with what the steps
before it came to. -/
structure Placeless (s : Step) : Prop where
  unsorted : ¬s.sorts
  placeless : ¬s.goesByPlace
  onward : ¬s.startsOver

theorem admits_unplaced (h : ¬s.goesByPlace) (b : Bookmark) :
    s.admits b.unplaced = s.admits b := by
  unfold admits
  cases hf : s.known.bind (filter? · s.parameters) with
  | none => rfl
  | some r =>
    cases r with
    | error e => rfl
    | ok f => exact Filter.admits_unplaced (fun hplace => h ⟨f, hf, hplace⟩) b

theorem placeless_of_known {a : Action} (h : s.known = some a)
    (ha : a ∉ [.sortBookmarks, .findIncludes, .findStartsWith, .limitResults]) : s.Placeless where
  unsorted := fun hs => by
    cases h.symm.trans (known_of_sorts hs)
    simp at ha
  placeless := by
    rintro ⟨f, hf, hplace⟩
    rw [h, Option.bind_some] at hf
    cases a with
    | findIncludes | findStartsWith => simp at ha
    | searchBookmarks | filterByRating =>
      obtain ⟨x, -, hx⟩ := bind_eq_ok.mp (Option.some.inj hf)
      cases hx
      exact hplace
    | findWithTags =>
      cases hf
      exact hplace
    | _ => cases hf
  onward := fun hover => by
    have hname : Action.ofName? Action.limitResults.name = some .limitResults := by decide
    rw [known, hover.1, hname] at h
    cases h
    simp at ha

theorem apply_of_known {a : Action} (h : s.known = some a) :
    apply source current s = (perform a s.parameters source current).toOption.getD current := by
  unfold apply
  rw [h]
  cases hp : perform a s.parameters source current with
  | ok bs => simp only [hp]; rfl
  | error e => simp only [hp]; rfl

/-- A step that takes so many from one end of what there is, or all of it. -/
def Cuts (s : Step) : Prop :=
  ∃ last n, ∀ source current, apply source current s = Bookmark.limit last n current

theorem Idle.cuts (h : s.Idle) : s.Cuts := ⟨false, 0, fun _ _ => apply_idle h⟩

theorem cuts_of_perform {a : Action} (last : Bool) (h : s.known = some a)
    (hperform : ∀ source current, perform a s.parameters source current =
      Bookmark.limitBy last (s.parameters.get "count") current) : s.Cuts := by
  obtain ⟨n, hn⟩ := Bookmark.exists_limit last (s.parameters.get "count")
  refine ⟨last, n, fun source current => ?_⟩
  rw [apply_of_known h, hperform, hn]

/-- Steps that neither filter nor sort nor start over have nothing else to do. -/
theorem cuts (hf : ¬s.filters) (hs : ¬s.sorts) (hover : ¬s.startsOver) : s.Cuts := by
  cases hknown : s.known with
  | none =>
    have hidle : s.Idle := fun a ha => by cases hknown.symm.trans ha
    exact hidle.cuts
  | some a =>
    cases a with
    | searchBookmarks | findIncludes | findStartsWith | findWithTags | filterByRating =>
      exact absurd (filters_iff.mpr ⟨_, hknown, rfl⟩) hf
    | sortBookmarks => exact absurd (action_of_known hknown) hs
    | limitResults =>
      have hcurrent : isText (s.parameters.get "scope") "all" = false := by
        simpa using fun hall => hover ⟨action_of_known hknown, hall⟩
      refine cuts_of_perform (isText (s.parameters.get "direction") "last") hknown fun _ _ => ?_
      simp only [perform, filter?, hcurrent, Bool.false_eq_true, if_false]
    | limitFirst => exact cuts_of_perform false hknown fun _ _ => rfl
    | limitLast => exact cuts_of_perform true hknown fun _ _ => rfl
    | _ =>
      have hidle : s.Idle := fun a ha => by rw [← Option.some.inj (hknown.symm.trans ha)]; rfl
      exact hidle.cuts

/-- What orders something but is no sort acts outside the view. -/
theorem idle_of_isOrdering (h : s.isOrdering = true) (hs : ¬s.sorts) : s.Idle := by
  intro a hknown
  rw [isOrdering, is, hknown, Option.any_some] at h
  cases a with
  | sortBookmarks => exact absurd (action_of_known hknown) hs
  | reorder | reorderAscending | reorderDescending | persistSortedOrder => rfl
  | _ => exact absurd h (by decide)

theorem contents_apply (h : s.Placeless) (source base current : List Bookmark) :
    contents (apply source current s) = apply base (contents current) s := by
  by_cases hf : s.filters
  · rw [apply_filters hf, apply_filters hf, Shelf.contents_filter _ (admits_unplaced h.placeless)]
  · obtain ⟨last, n, hlimit⟩ := cuts hf h.unsorted h.onward
    rw [hlimit, hlimit, contents, contents, Bookmark.limit_map]

end Step

namespace Plan

open LinkShelf.Shelf (contents)

variable {p before after : Plan} {s : Step} {c : Criterion} {source base current : List Bookmark}

theorem contents_foldl (h : ∀ s ∈ p, s.Placeless) (source base current : List Bookmark) :
    contents (p.foldl (Step.apply source) current) =
      p.foldl (Step.apply base) (contents current) := by
  induction p generalizing current with
  | nil => rfl
  | cons s p ih =>
    rw [List.foldl_cons, List.foldl_cons, ih fun t ht => h t (List.mem_cons_of_mem s ht),
      Step.contents_apply (h s List.mem_cons_self) source base]

/-- A sort may as well come before the filters that stand before it. -/
theorem run_sort_first (hsource : ∀ b ∈ source, b.Timed)
    (hbefore : ∀ t ∈ before, t.filters ∨ t.Idle) (hs : s.sorts) :
    run (before ++ s :: after) source = (before ++ after).foldl (Step.apply source)
      (MergeSort.sort (Bookmark.compareFor s.criterion) source) := by
  let sorted := MergeSort.sort (Bookmark.compareFor s.criterion) source
  have hsorted : ∀ b ∈ sorted, b.Timed := fun b hb =>
    hsource b ((MergeSort.sort_perm _ _).subset hb)
  have hkinds : ∀ t ∈ before, t.filters ∨ t.sorts ∨ t.Idle := fun t ht =>
    (hbefore t ht).imp_right .inr
  have hnone : sortSteps before = [] := by
    refine List.filter_eq_nil_iff.mpr fun t ht hsorts => ?_
    have hsorts := of_decide_eq_true hsorts
    exact (hbefore t ht).elim (Step.not_filters hsorts) fun h => h.not_sorts hsorts
  have hfilter : ∀ current : List Bookmark, (∀ b ∈ current, b.Timed) →
      before.foldl (Step.apply source) current =
        current.filter fun b => before.all fun t => t.admits b := by
    intro current hc
    rw [foldl_eq_filter hkinds hc, hnone, List.foldl_nil]
  have hpart : ∀ b ∈ before.foldl (Step.apply source) source, b.Timed := by
    rw [hfilter source hsource]
    exact fun b hb => hsource b (List.mem_of_mem_filter hb)
  have hswap : Step.apply source (before.foldl (Step.apply source) source) s =
      before.foldl (Step.apply source) sorted := by
    rw [Step.apply_sorts hs hpart, hfilter source hsource, hfilter sorted hsorted,
      MergeSort.sort_filter (Bookmark.orders_compareFor _) hsource]
  rw [run, List.foldl_append, List.foldl_cons, hswap, List.foldl_append]

theorem foldl_withoutOrdering (h : ∀ s ∈ p, ¬s.sorts) (source current : List Bookmark) :
    (withoutOrdering p).foldl (Step.apply source) current =
      p.foldl (Step.apply source) current := by
  induction p generalizing current with
  | nil => rfl
  | cons s p ih =>
    have hrest := ih fun t ht => h t (List.mem_cons_of_mem s ht)
    rw [withoutOrdering] at hrest ⊢
    rw [List.foldl_cons]
    cases hordering : s.isOrdering with
    | true =>
      have hidle := Step.idle_of_isOrdering hordering (h s List.mem_cons_self)
      rw [List.filter_cons_of_neg (by simp [hordering]), Step.apply_idle hidle, hrest]
    | false => rw [List.filter_cons_of_pos (by simp [hordering]), List.foldl_cons, hrest]

theorem run_withoutOrdering (hs : s.sorts) (hrest : ∀ t ∈ before ++ after, ¬t.sorts)
    (source : List Bookmark) :
    run (withoutOrdering (before ++ s :: after)) source =
      (before ++ after).foldl (Step.apply source) source := by
  have hordering : s.isOrdering = true := by
    rw [Step.isOrdering, Step.is, Step.known_of_sorts hs]
    rfl
  have hsplit : withoutOrdering (before ++ s :: after) = withoutOrdering (before ++ after) := by
    unfold withoutOrdering
    rw [List.filter_append, List.filter_cons_of_neg (by simp [hordering]), ← List.filter_append]
  rw [hsplit, run, foldl_withoutOrdering hrest]

/-- One sort by a criterion stands before all limits. Apart from it there are filters that do not go
by places, limits that do not start over, and steps that do nothing to the view. -/
def SortsOnce (c : Criterion) (p : Plan) : Prop :=
  ∃ before s after, p = before ++ s :: after ∧ s.sorts ∧ s.criterion = c ∧
    (∀ t ∈ before, t.filters ∨ t.Idle) ∧ ∀ t ∈ before ++ after, t.Placeless

/-- Run over the sorted collection, whatever its places, the plan without the sort comes to the same
bookmarks. -/
theorem SortsOnce.contents_run (h : SortsOnce c p) (hsource : ∀ b ∈ source, b.Timed)
    (hbase : contents base = contents (MergeSort.sort (Bookmark.compareFor c) source)) :
    contents (run (withoutOrdering p) base) = contents (run p source) := by
  obtain ⟨before, s, after, rfl, hs, rfl, hbefore, hrest⟩ := h
  rw [run_sort_first hsource hbefore hs, run_withoutOrdering hs fun t ht => (hrest t ht).unsorted,
    contents_foldl hrest base base, contents_foldl hrest source base, hbase]

end Plan

namespace Session

open LinkShelf.Act
open LinkShelf.Shelf (contents ids numbered)

variable {s : Session} {step : Step}

theorem contents_view (s : Session) :
    contents s.view = (contents (Plan.run (Plan.arrange s.plan) s.snapshot)).map shown := by
  unfold view contents
  rw [List.map_map, List.map_map]
  rfl

/-- A session that has seen the collection, and whose plan, in the order of priorities, sorts once
and before it limits anything. If it is told that the order of that sort was stored, the plan has
lost the sort and the collection its order, but the same bookmarks are shown in the same order. -/
theorem view_saved (hs : Shelf.Reachable s.shelf) (htimed : ∀ b ∈ s.shelf.items, b.Timed)
    (hseen : s.snapshot = s.shelf.items) (hranked : ∀ t ∈ s.plan, t.Ranked)
    (hplan : Plan.SortsOnce (Plan.criterion step s.plan) (Plan.arrange s.plan))
    (hstep : step.isPersist = true) :
    Ends (dispatch step) s
      (fun _ t => ToldSuccess s t → t.plan = Plan.withoutOrdering s.plan ∧
        contents t.view = contents s.view ∧ ids t.view = ids s.view)
      (fun _ _ => False) := by
  refine (ends_dispatch_resorted hs.orderly hstep rfl).mono (fun _ t ht htold => ?_) fun _ _ h => h
  obtain ⟨hsnapshot, hleft, u, hu, hshelf⟩ := ht htold
  obtain ⟨sorted, hsorted, hitems⟩ := hu.items
  rw [Bookmark.sortBy_eq htimed] at hsorted
  have hbase : contents t.snapshot = contents
      (MergeSort.sort (Bookmark.compareFor (Plan.criterion step s.plan)) s.shelf.items) := by
    rw [hsnapshot, hshelf, hitems, Shelf.contents_numbered, Except.ok.inj hsorted]
  have harranged : Plan.arrange t.plan = Plan.withoutOrdering (Plan.arrange s.plan) := by
    rw [hleft]
    exact Plan.arrange_filter hranked _
  have hview : contents t.view = contents s.view := by
    rw [contents_view, contents_view, harranged, hseen, hplan.contents_run htimed hbase]
  exact ⟨hleft, hview, by rw [← Shelf.ids_contents, hview, Shelf.ids_contents]⟩

section Example

@[irreducible] def teaShelf : Shelf := (Shelf.run (Shelf.fill Plan.teas) emptyShelf).2

def firstTwo : Step := { action := "limitFirst", parameters := [("count", .int 2)] }

/-- Its key is that of the first sort of the plan. -/
def keepOrder : Step := { action := "reorderDescending" }

/-- In the order of priorities, what holds "tea" is sorted by rating and the first two are left. -/
@[irreducible] def teaSession : Session :=
  { shelf := teaShelf, snapshot := teaShelf.items
    plan := [firstTwo, { Plan.withTea with priority := some .zero },
      { Plan.byRating with priority := some .zero }, keepOrder] }

theorem teaShelf_reachable : Shelf.Reachable teaShelf := by
  have hnew : Shelf.New emptyShelf := ⟨rfl, rfl, Shelf.fresh_unary⟩
  have hunused : Shelf.Unused emptyShelf.supply emptyShelf.drawn Plan.teas := by
    intro k _ b hb hid
    have hids : some (emptyShelf.supply k) ∈ Plan.teas.map (·.id) := hid ▸ List.mem_map_of_mem hb
    simp only [Plan.teas, List.map_cons, List.map_nil, List.mem_cons, List.not_mem_nil, or_false,
      Option.some.injEq] at hids
    rcases hids with h | h | h | h <;> exact Shelf.ne_unary (by decide) k h.symm
  unfold teaShelf
  exact .filled hnew hunused rfl

theorem teaShelf_timed : ∀ b ∈ teaShelf.items, b.Timed := by
  have htimes : teaShelf.items.map (fun b => (b.createdAt, b.updatedAt)) =
      Plan.teas.map fun b => (b.createdAt, b.updatedAt) := by
    unfold teaShelf
    rfl
  intro b hb
  have hmem : (b.createdAt, b.updatedAt) ∈ Plan.teas.map fun b => (b.createdAt, b.updatedAt) :=
    htimes ▸ List.mem_map_of_mem hb
  obtain ⟨c, hc, hsame⟩ := List.mem_map.mp hmem
  obtain ⟨hcreated, hupdated⟩ := Prod.mk.inj hsame
  have htimed := Plan.teas_timed c hc
  unfold Bookmark.Timed at htimed ⊢
  rwa [hcreated, hupdated] at htimed

theorem teaSession_ranked : ∀ t ∈ teaSession.plan, t.Ranked := by
  unfold teaSession
  simp [Step.Ranked, firstTwo, keepOrder, Plan.withTea, Plan.byRating, Binary64.zero]

theorem arrange_teaSession : Plan.arrange teaSession.plan =
    [{ Plan.withTea with priority := some .zero }, { Plan.byRating with priority := some .zero },
      firstTwo, keepOrder] := by
  unfold teaSession
  simp [Plan.arrange, MergeSort.sort, MergeSort.merge, Step.comparePriority, firstTwo, keepOrder,
    Plan.withTea, Plan.byRating, Binary64.zero, Binary64.compare?, Binary64.signed]

theorem teaSession_sortsOnce :
    Plan.SortsOnce (Plan.criterion keepOrder teaSession.plan) (Plan.arrange teaSession.plan) := by
  have hcriterion : Plan.byRating.criterion = Plan.criterion keepOrder teaSession.plan := by
    unfold teaSession
    rfl
  refine ⟨[{ Plan.withTea with priority := some .zero }],
    { Plan.byRating with priority := some .zero }, [firstTwo, keepOrder], arrange_teaSession, rfl,
    hcriterion, ?_, ?_⟩
  · simp only [List.forall_mem_singleton]
    exact .inl rfl
  · simp only [List.cons_append, List.nil_append, List.forall_mem_cons]
    exact ⟨Step.placeless_of_known (a := .searchBookmarks) (by decide) (by decide),
      Step.placeless_of_known (a := .limitFirst) (by decide) (by decide),
      Step.placeless_of_known (a := .reorderDescending) (by decide) (by decide), nofun⟩

theorem teaSession_seen : teaSession.snapshot = teaSession.shelf.items := by
  unfold teaSession
  rfl

theorem teaSession_shelf : teaSession.shelf = teaShelf := by
  unfold teaSession
  rfl

theorem teas_shown_alike :
    let t := (run (dispatch keepOrder) teaSession).2
    ids teaSession.view = [some "c", some "a"] ∧ ToldSuccess teaSession t ∧
      ids t.shelf.items = [some "b", some "c", some "a", some "d"] ∧
      t.plan.map (·.action) = ["limitFirst", "searchBookmarks"] ∧
      ids t.view = ids teaSession.view := by
  intro t
  have hsaved := view_saved (s := teaSession) (teaSession_shelf ▸ teaShelf_reachable)
    (teaSession_shelf ▸ teaShelf_timed) teaSession_seen teaSession_ranked teaSession_sortsOnce
    (by decide)
  have hevents : t.events = teaSession.events ++
      [.message ⟨"Reordered descending by rating and saved.", .success⟩] := by decide +kernel
  have htold : ToldSuccess teaSession t := (toldSuccess_iff hevents).mpr ⟨_, rfl, rfl⟩
  have hview := (hsaved.mono (fun _ _ h => h) fun _ _ h => h.elim).state rfl htold
  exact ⟨by decide +kernel, htold, by decide +kernel, by decide +kernel, hview.2.2⟩

end Example

end Session

end LinkShelf

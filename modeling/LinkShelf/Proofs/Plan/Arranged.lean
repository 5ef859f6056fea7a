import LinkShelf.Plan.Reply
import LinkShelf.Proofs.Stable
/-!
The order of priorities is an order, steps without one coming last; so a plan that loses steps keeps
the order of the others.
-/
namespace LinkShelf

namespace Step

/-- A priority, if there is one, is a number. -/
def Ranked (s : Step) : Prop := s.priority ≠ some .nan

/-- Priorities as pairs in the order of their first and then of their second part. -/
def rank : Option Binary64 → Int × Int
  | some .nan => (0, 0)
  | some (.infinite negative) => (if negative then 0 else 2, 0)
  | some (.finite negative units) => (1, Binary64.signed negative units)
  | none => (3, 0)

def compareRank : Int × Int → Int × Int → Ordering :=
  compareLex (compareOn Prod.fst) (compareOn Prod.snd)

theorem comparePriority_eq {a b : Step} (ha : a.Ranked) (hb : b.Ranked) :
    comparePriority a b = compareRank (rank a.priority) (rank b.priority) := by
  unfold Ranked at ha hb
  unfold comparePriority
  cases hp : a.priority with
  | none =>
    cases hq : b.priority with
    | none => decide
    | some y =>
      cases y with
      | nan => exact (hb hq).elim
      | infinite t => cases t <;> decide
      | finite t v => rfl
  | some x =>
    cases hq : b.priority with
    | none =>
      cases x with
      | nan => exact (ha hp).elim
      | infinite s => cases s <;> decide
      | finite s u => rfl
    | some y =>
      cases x with
      | nan => exact (ha hp).elim
      | infinite s =>
        cases y with
        | nan => exact (hb hq).elim
        | infinite t => cases s <;> cases t <;> decide
        | finite t v => cases s <;> rfl
      | finite s u =>
        cases y with
        | nan => exact (hb hq).elim
        | infinite t => cases t <;> rfl
        | finite t v =>
          show compare _ _ = (compare (1 : Int) 1).then (compare _ _)
          rfl

theorem orders_comparePriority : MergeSort.Orders comparePriority Ranked := by
  have hrank : Std.TransCmp compareRank := by
    unfold compareRank
    infer_instance
  constructor
  · intro a b ha hb
    rw [comparePriority_eq ha hb, comparePriority_eq hb ha]
    exact Std.OrientedCmp.eq_swap
  · intro a b c ha hb hc
    rw [comparePriority_eq ha hb, comparePriority_eq hb hc, comparePriority_eq ha hc]
    simp only [← Ordering.isLE_iff_ne_gt]
    exact Std.TransCmp.isLE_trans

theorem priorityOf_ne_nan (v : Json) : priorityOf v ≠ .ok (some .nan) := by
  intro h
  cases v with
  | int n =>
    obtain ⟨x, hx, h⟩ := bind_eq_ok.mp h
    cases h
    unfold Json.wholeAsReal Binary64.ofInt? at hx
    generalize Binary64.ofRatio (n < 0) n.natAbs 1 = y at hx
    cases y <;> cases hx
  | float x => cases x <;> cases h
  | _ => cases h

/-- What is read as a priority is a number. -/
theorem ranked_ofMembers {ms : Members} {s : Step} (h : ofMembers ms = .ok (some s)) :
    s.Ranked := by
  obtain ⟨x, hx, h⟩ := bind_eq_ok.mp h
  have hpriority : s.priority = x := by
    split at h
    · cases h
      rfl
    · cases h
  unfold Ranked
  rw [hpriority]
  rintro rfl
  exact priorityOf_ne_nan _ hx

end Step

namespace Plan

variable {p : Plan}

/-- Where no step has a priority, sorting by them changes nothing. -/
theorem arrange_eq_sort (p : Plan) : arrange p = MergeSort.sort Step.comparePriority p := by
  unfold arrange
  split
  · rfl
  · rename_i hnone
    have hpriority : ∀ s ∈ p, s.priority = none := by
      simpa using hnone
    refine (MergeSort.sort_of_ordered (List.pairwise_of_forall_mem_list fun a ha b hb => ?_)).symm
    rw [Step.comparePriority, hpriority a ha, hpriority b hb]
    decide

theorem arrange_perm (p : Plan) : (arrange p).Perm p := by
  rw [arrange_eq_sort]
  exact MergeSort.sort_perm _ p

/-- The steps that stay are arranged as they were among the others. -/
theorem arrange_filter (h : ∀ s ∈ p, s.Ranked) (keep : Step → Bool) :
    arrange (p.filter keep) = (arrange p).filter keep := by
  rw [arrange_eq_sort, arrange_eq_sort, MergeSort.sort_filter Step.orders_comparePriority h]

end Plan

/-- The steps of a reply are ranked. -/
theorem Reply.ranked_plan {depth : Nat} {text : String} {p : Plan}
    (h : Reply.plan depth text = .ok p) : ∀ s ∈ p, s.Ranked := by
  have hsteps : ∀ {vs : List Json} {p : Plan}, Reply.stepsOf vs = .ok p → ∀ s ∈ p, s.Ranked := by
    intro vs
    fun_induction Reply.stepsOf vs with
    | case1 =>
      intro p h
      cases h
      simp
    | case2 ms vs action hms ih =>
      intro p h
      obtain ⟨step, hstep, h⟩ := bind_eq_ok.mp h
      obtain ⟨rest, hrest, h⟩ := bind_eq_ok.mp h
      cases h
      intro s hs
      rcases List.mem_append.mp hs with hs | hs
      · obtain rfl := Option.mem_toList.mp hs
        exact Step.ranked_ofMembers hstep
      · exact ih hrest s hs
    | case3 ms vs hms ih => exact ih
    | case4 v vs hv ih => exact ih
  unfold Reply.plan at h
  split at h
  · cases h
  · obtain ⟨v, -, h⟩ := bind_eq_ok.mp h
    obtain ⟨steps, hstepsOf, h⟩ := bind_eq_ok.mp h
    split at h
    · cases h
    · cases h
      exact hsteps hstepsOf

end LinkShelf

import LinkShelf.Proofs.Plan.Arranged
/-!
Arranging a plan is one operation, however often it is done. The steps with a priority come first,
in ascending order, and then those without one, ties and the rest as given; there is one such list
only. So a plan may be arranged in parts before it is arranged as a whole.
-/
namespace LinkShelf

namespace Step

variable {s t : Step}

/-- Both have a priority, and that of the first one is lower. -/
def below (s t : Step) : Bool :=
  match s.priority, t.priority with
  | some x, some y => x.lt y
  | _, _ => false

/-- Both have a priority, and it is the same one. -/
def level (s t : Step) : Bool :=
  match s.priority, t.priority with
  | some x, some y => x.same y
  | _, _ => false

theorem comparePriority_ne_lt : comparePriority t s ≠ .lt ↔
    t.below s = false ∧ (t.priority.isSome = true → s.priority.isSome = true) := by
  unfold comparePriority below Binary64.lt
  cases t.priority with
  | none => cases s.priority <;> simp
  | some y =>
    cases s.priority with
    | none => simp
    | some x =>
      simp only [Option.isSome_some, implies_true, and_true]
      cases y.compare? x with
      | none => simp
      | some o => simp

theorem comparePriority_unprioritized (h : t.priority.isSome = false) :
    comparePriority t s ≠ .lt := by
  refine comparePriority_ne_lt.mpr ⟨?_, by simp [h]⟩
  unfold below
  cases ht : t.priority with
  | none => rfl
  | some y => simp [ht] at h

theorem level_unprioritized (h : s.priority.isSome = false) : s.level = fun _ => false := by
  funext t
  unfold level
  cases hs : s.priority with
  | none => rfl
  | some x => simp [hs] at h

theorem ties_unprioritized (h : s.priority.isSome = false) :
    MergeSort.ties comparePriority s t = !t.priority.isSome := by
  unfold MergeSort.ties comparePriority
  cases hs : s.priority with
  | some x => simp [hs] at h
  | none => cases t.priority <;> rfl

theorem ties_prioritized (hs : s.Ranked) (ht : t.Ranked) (h : s.priority.isSome = true) :
    MergeSort.ties comparePriority s t = s.level t := by
  unfold Ranked at hs ht
  unfold MergeSort.ties comparePriority level Binary64.same
  cases hx : s.priority with
  | none => simp [hx] at h
  | some x =>
    cases hy : t.priority with
    | none => rfl
    | some y =>
      have hcompare : ∃ o, x.compare? y = some o := by
        cases x with
        | nan => exact (hs hx).elim
        | infinite | finite =>
          cases y with
          | nan => exact (ht hy).elim
          | infinite | finite => exact ⟨_, rfl⟩
      obtain ⟨o, ho⟩ := hcompare
      cases o <;> simp [ho]

end Step

namespace Plan

variable {p q given : Plan}

def prioritized (p : Plan) : Plan := p.filter (·.priority.isSome)

def unprioritized (p : Plan) : Plan := p.filter (!·.priority.isSome)

/-- The steps of a plan with a priority, none after one of a higher priority and those of one
priority as given, and then its steps without one as given. -/
structure Ascending (given p : Plan) : Prop where
  parts : p = prioritized p ++ unprioritized given
  perm : (prioritized p).Perm (prioritized given)
  ordered : (prioritized p).Pairwise fun s t => t.below s = false
  level : ∀ s ∈ given, p.filter s.level = given.filter s.level

section Parts

theorem mem_prioritized {s : Step} (h : s ∈ prioritized p) : s.priority.isSome = true :=
  (List.mem_filter.mp h).2

theorem mem_unprioritized {s : Step} (h : s ∈ unprioritized p) : s.priority.isSome = false := by
  simpa using (List.mem_filter.mp h).2

theorem unprioritized_parts (p q : Plan) :
    unprioritized (prioritized p ++ unprioritized q) = unprioritized q := by
  simp [prioritized, unprioritized]

/-- No step without a priority comes before one that has one. -/
theorem eq_parts (h : p.Pairwise fun s t => t.priority.isSome = true → s.priority.isSome = true) :
    p = prioritized p ++ unprioritized p := by
  induction p with
  | nil => rfl
  | cons s p ih =>
    obtain ⟨hfirst, hrest⟩ := List.pairwise_cons.mp h
    cases hs : s.priority.isSome with
    | true =>
      have hparts : prioritized (s :: p) ++ unprioritized (s :: p) =
          s :: (prioritized p ++ unprioritized p) := by
        rw [prioritized, unprioritized, List.filter_cons, if_pos hs, List.filter_cons,
          if_neg (by simp [hs])]
        rfl
      rw [hparts, ← ih hrest]
    | false =>
      have hnone : ∀ t ∈ s :: p, t.priority.isSome = false := by
        intro t ht
        rcases List.mem_cons.mp ht with rfl | ht
        · exact hs
        · rw [Bool.eq_false_iff]
          intro hset
          rw [hfirst t ht hset] at hs
          cases hs
      have hempty : prioritized (s :: p) = [] :=
        List.filter_eq_nil_iff.mpr fun t ht => by simp [hnone t ht]
      have hall : unprioritized (s :: p) = s :: p :=
        List.filter_eq_self.mpr fun t ht => by simp [hnone t ht]
      rw [hempty, hall, List.nil_append]

theorem filter_ties {s : Step} (hp : ∀ t ∈ p, t.Ranked) (hs : s.Ranked) :
    p.filter (MergeSort.ties Step.comparePriority s) =
      if s.priority.isSome then p.filter s.level else unprioritized p := by
  cases hset : s.priority.isSome with
  | true => exact List.filter_congr fun t ht => Step.ties_prioritized hs (hp t ht) hset
  | false => exact List.filter_congr fun t _ => Step.ties_unprioritized hset

end Parts

theorem arrange_stableOrder (h : ∀ s ∈ given, s.Ranked) :
    MergeSort.StableOrder Step.comparePriority given (arrange given) := by
  rw [arrange_eq_sort]
  exact MergeSort.stableOrder_sort Step.orders_comparePriority h

/-- A plan is in ascending order just if it is in that of the comparison. -/
theorem ascending_iff (h : ∀ s ∈ given, s.Ranked) :
    Ascending given p ↔ MergeSort.StableOrder Step.comparePriority given p := by
  constructor
  · intro hp
    have hperm : p.Perm given := by
      rw [hp.parts]
      exact (hp.perm.append_right _).trans (List.filter_append_perm _ given)
    have hranked : ∀ s ∈ p, s.Ranked := fun s hs => h s (hperm.subset hs)
    refine ⟨hperm, ?_, fun s hs => ?_⟩
    · rw [hp.parts, List.pairwise_append]
      refine ⟨?_, ?_, fun s _ t ht => ?_⟩
      · refine hp.ordered.imp_of_mem fun hs _ hst => ?_
        exact Step.comparePriority_ne_lt.mpr ⟨hst, fun _ => mem_prioritized hs⟩
      · exact List.pairwise_of_forall_mem_list fun s _ t ht =>
          Step.comparePriority_unprioritized (mem_unprioritized ht)
      · exact Step.comparePriority_unprioritized (mem_unprioritized ht)
    · have hrest : unprioritized p = unprioritized given := by
        rw [hp.parts, unprioritized_parts]
      rw [filter_ties hranked (h s hs), filter_ties h (h s hs), hp.level s hs, hrest]
  · intro hp
    have hranked : ∀ s ∈ p, s.Ranked := fun s hs => h s (hp.perm.subset hs)
    have hparts : p = prioritized p ++ unprioritized p :=
      eq_parts (hp.ordered.imp fun hlt => (Step.comparePriority_ne_lt.mp hlt).2)
    have hlevel : ∀ s ∈ given, s.priority.isSome = true →
        p.filter s.level = given.filter s.level := by
      intro s hs hset
      have hties := hp.ties s hs
      rwa [filter_ties hranked (h s hs), filter_ties h (h s hs), hset] at hties
    have hrest : unprioritized p = unprioritized given := by
      cases hg : unprioritized given with
      | nil =>
        have hperm : (unprioritized p).Perm (unprioritized given) := hp.perm.filter _
        rw [hg] at hperm
        exact hperm.eq_nil
      | cons s steps =>
        have hs : s ∈ unprioritized given := by simp [hg]
        have hin : s ∈ given := List.mem_of_mem_filter hs
        have hties := hp.ties s hin
        rw [filter_ties hranked (h s hin), filter_ties h (h s hin), mem_unprioritized hs] at hties
        exact hties.trans hg
    refine ⟨?_, hp.perm.filter _, ?_, fun s hs => ?_⟩
    · rw [← hrest]
      exact hparts
    · exact (hp.ordered.filter _).imp fun hlt => (Step.comparePriority_ne_lt.mp hlt).1
    · cases hset : s.priority.isSome with
      | true => exact hlevel s hs hset
      | false => rw [Step.level_unprioritized hset, List.filter_false, List.filter_false]

/-- There is one ascending order of a plan, and it is the one that is made. -/
theorem ascending_iff_eq (h : ∀ s ∈ given, s.Ranked) : Ascending given p ↔ p = arrange given := by
  rw [ascending_iff h]
  constructor
  · exact fun hp => hp.unique Step.orders_comparePriority h (arrange_stableOrder h)
  · rintro rfl
    exact arrange_stableOrder h

section Arranging

/-- A plan may be arranged in parts beforehand. -/
theorem arrange_append (h : ∀ s ∈ p ++ q, s.Ranked) :
    arrange (arrange p ++ arrange q) = arrange (p ++ q) := by
  rw [arrange_eq_sort, arrange_eq_sort p, arrange_eq_sort q, arrange_eq_sort]
  exact MergeSort.sort_append Step.orders_comparePriority h

theorem arrange_arrange (h : ∀ s ∈ p, s.Ranked) : arrange (arrange p) = arrange p := by
  have hnil : arrange ([] : Plan) = [] := rfl
  have happend := arrange_append (p := p) (q := []) (by simpa using h)
  rwa [hnil, List.append_nil, List.append_nil] at happend

/-- What is arranged alike may stand for one another. -/
theorem arrange_append_congr {p' q' : Plan} (h : ∀ s ∈ p ++ q, s.Ranked)
    (h' : ∀ s ∈ p' ++ q', s.Ranked) (hp : arrange p = arrange p') (hq : arrange q = arrange q') :
    arrange (p ++ q) = arrange (p' ++ q') := by
  rw [← arrange_append h, hp, hq, arrange_append h']

theorem ranked_arrange (h : ∀ s ∈ p, s.Ranked) : ∀ s ∈ arrange p, s.Ranked :=
  fun s hs => h s ((arrange_perm p).subset hs)

theorem containsReset_arrange (p : Plan) : containsReset (arrange p) = containsReset p :=
  (arrange_perm p).any_eq

end Arranging

end Plan

end LinkShelf

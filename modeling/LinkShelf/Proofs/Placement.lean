import LinkShelf.Proofs.Stable
/-!
The places that elements come from. Of all ways to take the elements of a list from their places
just one puts them in order and leaves those that compare equal in the order of their places, and
this is what the merge sort gives. Sorting a list that has been sorted before is sorting it once, by
the later comparison and, where that leaves two elements equal, by the earlier one.
-/
namespace LinkShelf.MergeSort

variable {α : Type} {cmp cmp₁ cmp₂ : α → α → Ordering} {p : α → Prop} {xs ys : List α} {x y z : α}
  {ps qs : List (α × Nat)}

/-- The elements of a list, each with its place, in an order in which none is greater than the next
one, and of those that compare equal the one with the earlier place comes first. -/
structure Placement (cmp : α → α → Ordering) (xs : List α) (ps : List (α × Nat)) : Prop where
  perm : ps.Perm xs.zipIdx
  ordered : ps.IsChain fun a b => cmp a.1 b.1 ≠ .gt
  ties : ps.Pairwise fun a b => cmp a.1 b.1 = .eq → a.2 < b.2

/-- The second list is the first one in the only order of this kind. -/
def StableSort (cmp : α → α → Ordering) (xs ys : List α) : Prop :=
  ∃ ps, ys = ps.map Prod.fst ∧ Placement cmp xs ps ∧ ∀ qs, Placement cmp xs qs → qs = ps

theorem pairwise_places (xs : List α) : xs.zipIdx.Pairwise fun a b => a.2 < b.2 := by
  rw [← List.pairwise_map, List.zipIdx_map_snd]
  exact List.pairwise_lt_range' 1

/-- What is kept between all elements that are tied with a given one is kept between any two that
are tied with each other. -/
theorem Orders.pairwise_ties (ho : Orders cmp p) (hp : ∀ x ∈ xs, p x) {r : α → α → Prop}
    (h : ∀ a ∈ xs, (xs.filter (ties cmp a)).Pairwise r) :
    xs.Pairwise fun x y => cmp x y = .eq → r x y := by
  refine List.pairwise_iff_forall_sublist.mpr fun {x y} hsub heq => ?_
  have hx : x ∈ xs := hsub.subset (by simp)
  have hself := ho.ties_self (hp x hx)
  have hother : ties cmp x y = true := decide_eq_true heq
  have hpart : [x, y].filter (ties cmp x) = [x, y] := by
    rw [List.filter_cons_of_pos hself, List.filter_cons_of_pos hother, List.filter_nil]
  exact List.pairwise_iff_forall_sublist.mp (h x hx) (hpart ▸ hsub.filter _)

/-- No element of a list is greater than any later one if none is greater than the next one. -/
theorem Orders.pairwise_of_chain (ho : Orders cmp p) (hp : ∀ x ∈ xs, p x)
    (h : xs.IsChain fun x y => cmp x y ≠ .gt) : xs.Pairwise fun x y => cmp y x ≠ .lt := by
  induction xs with
  | nil => exact .nil
  | cons x xs ih =>
    cases xs with
    | nil => exact List.pairwise_singleton _ x
    | cons y xs =>
      obtain ⟨hxy, hchain⟩ := List.isChain_cons_cons.mp h
      have hx := hp x (by simp)
      have hafter : ∀ z ∈ y :: xs, p z := fun z hz => hp z (List.mem_cons_of_mem x hz)
      have hrest := ih hafter hchain
      have hyx := (ho.not_lt hx (hafter y (by simp))).mpr hxy
      exact List.pairwise_cons.mpr ⟨ho.before_all hx hafter hrest hyx, hrest⟩

section Places

/-- The comparison of elements, whatever their places. -/
def onElements (cmp : α → α → Ordering) (a b : α × Nat) : Ordering := cmp a.1 b.1

theorem orders_onElements (ho : Orders cmp p) : Orders (onElements cmp) fun a => p a.1 :=
  ⟨fun ha hb => ho.swap ha hb, fun ha hb hc => ho.trans ha hb hc⟩

theorem fst_mem_of_place {a : α × Nat} (h : a ∈ xs.zipIdx) : a.1 ∈ xs := by
  rw [← List.zipIdx_map_fst 0 xs]
  exact List.mem_map_of_mem h

/-- Two elements of a placement cannot stand in both orders. -/
theorem Placement.unique (ho : Orders cmp p) (hp : ∀ x ∈ xs, p x) (h : Placement cmp xs ps)
    (h' : Placement cmp xs qs) : qs = ps := by
  have hplace {rs : List (α × Nat)} (hr : Placement cmp xs rs) : ∀ a ∈ rs, p a.1 :=
    fun a ha => hp _ (fst_mem_of_place (hr.perm.subset ha))
  have hall {rs : List (α × Nat)} (hr : Placement cmp xs rs) : rs.Pairwise fun a b =>
      cmp b.1 a.1 ≠ .lt ∧ (cmp a.1 b.1 = .eq → a.2 < b.2) :=
    ((orders_onElements ho).pairwise_of_chain (hplace hr) hr.ordered).and hr.ties
  refine List.Perm.eq_of_pairwise (fun a b ha hb hab hba => ?_) (hall h') (hall h)
    (h'.perm.trans h.perm.symm)
  have heq : cmp a.1 b.1 = .eq := of_decide_eq_true
    (ho.ties_of_not_lt (hplace h' a ha) (hplace h b hb) hba.1 hab.1)
  have heq' : cmp b.1 a.1 = .eq := by
    rw [ho.swap (hplace h' a ha) (hplace h b hb), heq]
    rfl
  exact absurd (hba.2 heq') (Nat.lt_asymm (hab.2 heq))

theorem placement_sort (ho : Orders cmp p) (hp : ∀ x ∈ xs, p x) :
    Placement cmp xs (sort (onElements cmp) xs.zipIdx) := by
  have hplaces : ∀ a ∈ xs.zipIdx, p a.1 := fun a ha => hp _ (fst_mem_of_place ha)
  have horders := orders_onElements ho
  have hstable := stableOrder_sort horders hplaces
  have hin : ∀ a ∈ sort (onElements cmp) xs.zipIdx, p a.1 :=
    fun a ha => hplaces a (hstable.perm.subset ha)
  refine ⟨hstable.perm, ?_, ?_⟩
  · have hsorted := hstable.ordered.imp_of_mem fun ha hb hab =>
      (horders.not_lt (hin _ ha) (hin _ hb)).mp hab
    exact hsorted.isChain
  · refine horders.pairwise_ties hin fun a ha => ?_
    rw [hstable.ties a (hstable.perm.subset ha)]
    exact (pairwise_places xs).filter _

/-- The merge sort is the stable sort. -/
theorem stableSort_sort (ho : Orders cmp p) (hp : ∀ x ∈ xs, p x) :
    StableSort cmp xs (sort cmp xs) := by
  have helements : (sort (onElements cmp) xs.zipIdx).map Prod.fst =
      sort cmp (xs.zipIdx.map Prod.fst) := sort_map fun _ _ _ _ => rfl
  rw [List.zipIdx_map_fst] at helements
  have hsort := placement_sort ho hp
  exact ⟨_, helements.symm, hsort, fun qs hqs => hsort.unique ho hp hqs⟩

end Places

section Twice

/-- Comparing by a second comparison first, and where it leaves two elements equal by the first. -/
def thenBy (cmp₂ cmp₁ : α → α → Ordering) (x y : α) : Ordering := (cmp₂ x y).then (cmp₁ x y)

theorem thenBy_ne_gt :
    thenBy cmp₂ cmp₁ x y ≠ .gt ↔ cmp₂ x y ≠ .gt ∧ (cmp₂ x y = .eq → cmp₁ x y ≠ .gt) := by
  unfold thenBy
  cases cmp₂ x y <;> simp [Ordering.then]

theorem thenBy_ne_lt :
    thenBy cmp₂ cmp₁ x y ≠ .lt ↔ cmp₂ x y ≠ .lt ∧ (cmp₂ x y = .eq → cmp₁ x y ≠ .lt) := by
  unfold thenBy
  cases cmp₂ x y <;> simp [Ordering.then]

theorem ties_thenBy (a : α) :
    ties (thenBy cmp₂ cmp₁) a = fun x => ties cmp₁ a x && ties cmp₂ a x := by
  funext x
  unfold ties thenBy
  cases cmp₂ a x <;> cases cmp₁ a x <;> rfl

/-- Between two that are tied, any element is tied with both. -/
theorem Orders.eq_between (ho : Orders cmp p) (hx : p x) (hy : p y) (hz : p z)
    (hxy : cmp x y ≠ .gt) (hyz : cmp y z ≠ .gt) (hxz : cmp x z = .eq) :
    cmp x y = .eq ∧ cmp y z = .eq := by
  have hzx : cmp z x ≠ .gt := by
    rw [ho.swap hx hz, hxz]
    decide
  have hyx : cmp y x ≠ .gt := ho.trans hy hz hx hyz hzx
  have hzy : cmp z y ≠ .gt := ho.trans hz hx hy hzx hxy
  exact ⟨of_decide_eq_true (ho.ties_of_not_lt hx hy ((ho.not_lt hy hx).mpr hyx)
      ((ho.not_lt hx hy).mpr hxy)),
    of_decide_eq_true (ho.ties_of_not_lt hy hz ((ho.not_lt hz hy).mpr hzy)
      ((ho.not_lt hy hz).mpr hyz))⟩

theorem Orders.thenBy (ho₂ : Orders cmp₂ p) (ho₁ : Orders cmp₁ p) :
    Orders (thenBy cmp₂ cmp₁) p := by
  constructor
  · intro x y hx hy
    rw [MergeSort.thenBy, MergeSort.thenBy, Ordering.swap_then, ho₂.swap hx hy, ho₁.swap hx hy]
  · intro x y z hx hy hz hxy hyz
    rw [thenBy_ne_gt] at hxy hyz ⊢
    refine ⟨ho₂.trans hx hy hz hxy.1 hyz.1, fun hxz => ?_⟩
    obtain ⟨hxy', hyz'⟩ := ho₂.eq_between hx hy hz hxy.1 hyz.1 hxz
    exact ho₁.trans hx hy hz (hxy.2 hxy') (hyz.2 hyz')

/-- Sorting what has been sorted by another comparison. -/
theorem sort_sort (ho₂ : Orders cmp₂ p) (ho₁ : Orders cmp₁ p) (hp : ∀ x ∈ xs, p x) :
    sort cmp₂ (sort cmp₁ xs) = sort (thenBy cmp₂ cmp₁) xs := by
  have hfirst := stableOrder_sort ho₁ hp
  have hp' : ∀ x ∈ sort cmp₁ xs, p x := fun x hx => hp x (hfirst.perm.subset hx)
  have hagain := stableOrder_sort ho₂ hp'
  have hin : ∀ x ∈ sort cmp₂ (sort cmp₁ xs), p x := fun x hx => hp' x (hagain.perm.subset hx)
  have hstable : StableOrder (thenBy cmp₂ cmp₁) xs (sort cmp₂ (sort cmp₁ xs)) := by
    refine ⟨hagain.perm.trans hfirst.perm, ?_, fun a ha => ?_⟩
    · -- those that are tied are in the order that the first sort has left
      have hties := ho₂.pairwise_ties hin (r := fun x y => cmp₁ y x ≠ .lt) fun a ha => by
        rw [hagain.ties a (hagain.perm.subset ha)]
        exact hfirst.ordered.filter _
      refine (hagain.ordered.and hties).imp_of_mem fun {x y} hx hy hxy => ?_
      refine thenBy_ne_lt.mpr ⟨hxy.1, fun heq => hxy.2 ?_⟩
      rw [ho₂.swap (hin y hy) (hin x hx), heq]
      rfl
    · rw [ties_thenBy, ← List.filter_filter, ← List.filter_filter,
        hagain.ties a (hfirst.perm.symm.subset ha), List.filter_comm, hfirst.ties a ha,
        List.filter_comm]
  exact hstable.unique (ho₂.thenBy ho₁) hp (stableOrder_sort (ho₂.thenBy ho₁) hp)

/-- Sorting once more changes nothing. -/
theorem sort_again (ho : Orders cmp p) (hp : ∀ x ∈ xs, p x) :
    sort cmp (sort cmp xs) = sort cmp xs := sort_of_ordered (sort_ordered ho hp)

/-- Sorting in the opposite direction reverses a list just where it makes no difference to any of
those that are tied with each other. -/
theorem sort_reversed_iff (ho : Orders cmp p) (hp : ∀ x ∈ xs, p x) :
    sort (fun x y => (cmp x y).swap) xs = (sort cmp xs).reverse ↔
      ∀ a ∈ xs, (xs.filter (ties cmp a)).reverse = xs.filter (ties cmp a) := by
  have hswapped (a : α) : ties (fun x y => (cmp x y).swap) a = ties cmp a := by
    funext x
    change decide ((cmp a x).swap = .eq) = decide (cmp a x = .eq)
    cases cmp a x <;> rfl
  have hup := stableOrder_sort ho hp
  have hdown := stableOrder_sort ho.reversed hp
  constructor
  · intro h a ha
    have hties := hdown.ties a ha
    rwa [h, hswapped, List.filter_reverse, hup.ties a ha] at hties
  · intro h
    refine hdown.unique ho.reversed hp ⟨(List.reverse_perm _).trans hup.perm, ?_, fun a ha => ?_⟩
    · refine List.pairwise_reverse.mpr (hup.ordered.imp_of_mem fun {x y} hx hy hxy => ?_)
      rwa [← ho.swap (hp x (hup.perm.subset hx)) (hp y (hup.perm.subset hy))]
    · rw [hswapped, List.filter_reverse, hup.ties a ha, h a ha]

end Twice

end LinkShelf.MergeSort

import LinkShelf.Proofs.Sorting
/-!
Sorting is stable: what compares equal keeps its order. A list has one rearrangement only that is in
order and does so, and leaving elements out of it yields that of the elements that stay; so it makes
no difference whether a list is sorted before or after.
-/
namespace LinkShelf

namespace MergeSort

variable {α β : Type} {cmp : α → α → Ordering} {p : α → Prop} {xs ys zs : List α} {a x y z : α}

/-- Whether an element compares equal to another one. -/
def ties (cmp : α → α → Ordering) (x y : α) : Bool := cmp x y = .eq

theorem Orders.ties_self (h : Orders cmp p) (hx : p x) : ties cmp x x = true := by
  have hswap := h.swap hx hx
  unfold ties
  cases hc : cmp x x with
  | eq => rfl
  | lt | gt => simp [hc] at hswap

theorem Orders.not_lt_self (h : Orders cmp p) (hx : p x) : cmp x x ≠ .lt := by
  have hself := h.ties_self hx
  rw [ties, decide_eq_true_eq] at hself
  rw [hself]
  decide

theorem Orders.ties_of_not_lt (h : Orders cmp p) (hx : p x) (hy : p y) (hxy : cmp x y ≠ .lt)
    (hyx : cmp y x ≠ .lt) : ties cmp x y = true := by
  rw [h.swap hx hy] at hyx
  unfold ties
  cases hc : cmp x y with
  | eq => rfl
  | lt => exact (hxy hc).elim
  | gt => exact (hyx (by rw [hc]; rfl)).elim

/-- What compares equal to an element is not tied with what comes after a greater one. -/
theorem Orders.not_ties (h : Orders cmp p) (ha : p a) (hx : p x) (hy : p y) (hz : p z)
    (hay : ties cmp a y = true) (hyx : cmp y x = .lt) (hxz : cmp z x ≠ .lt) :
    ties cmp a z = false := by
  unfold ties at hay ⊢
  rw [decide_eq_true_eq] at hay
  rw [decide_eq_false_iff_not]
  intro haz
  have hxz' : cmp x z ≠ .gt := (h.not_lt hx hz).mp hxz
  have hza : cmp z a ≠ .gt := by
    rw [h.swap ha hz, haz]
    decide
  have hxa : cmp x a ≠ .gt := h.trans hx hz ha hxz' hza
  have hxy : cmp x y ≠ .gt := h.trans hx ha hy hxa (by rw [hay]; decide)
  refine hxy ?_
  rw [h.swap hy hx, hyx]
  rfl

theorem merge_ties (ho : Orders cmp p) (ha : p a) (hpx : ∀ x ∈ xs, p x) (hpy : ∀ y ∈ ys, p y)
    (hxs : xs.Pairwise fun x y => cmp y x ≠ .lt) :
    (merge cmp xs ys).filter (ties cmp a) = xs.filter (ties cmp a) ++ ys.filter (ties cmp a) := by
  fun_induction merge cmp xs ys with
  | case1 ys => rfl
  | case2 xs => simp
  | case3 x xs y ys hlt ih =>
    have hrest := ih hpx (fun z hz => hpy z (by simp [hz])) hxs
    cases hy : ties cmp a y with
    | false => rw [List.filter_cons, List.filter_cons (x := y), hrest, hy]; rfl
    | true =>
      -- nothing on the left is tied with what is taken from the right
      have hnone : (x :: xs).filter (ties cmp a) = [] := by
        refine List.filter_eq_nil_iff.mpr fun z hz => ?_
        have hx := hpx x (by simp)
        have hxz : cmp z x ≠ .lt := by
          rcases List.mem_cons.mp hz with rfl | hz
          · exact ho.not_lt_self hx
          · exact (List.pairwise_cons.mp hxs).1 z hz
        rw [ho.not_ties ha hx (hpy y (by simp)) (hpx z hz) hy hlt hxz]
        exact Bool.false_ne_true
      rw [List.filter_cons_of_pos hy, hrest, List.filter_cons_of_pos hy, hnone]
      rfl
  | case4 x xs y ys hle ih =>
    have hrest := ih (fun z hz => hpx z (by simp [hz])) hpy (List.pairwise_cons.mp hxs).2
    rw [List.filter_cons, List.filter_cons (x := x), hrest]
    cases ties cmp a x <;> rfl

theorem sort_ties (ho : Orders cmp p) (hp : ∀ x ∈ xs, p x) (ha : p a) :
    (sort cmp xs).filter (ties cmp a) = xs.filter (ties cmp a) := by
  fun_induction sort cmp xs with
  | case1 xs hlen => rfl
  | case2 xs hlen ih₁ ih₂ =>
    have hfirst : ∀ x ∈ xs.take (xs.length / 2), p x := fun x hx => hp x (List.mem_of_mem_take hx)
    have hlast : ∀ x ∈ xs.drop (xs.length / 2), p x := fun x hx => hp x (List.mem_of_mem_drop hx)
    rw [merge_ties ho ha (fun x hx => hfirst x ((sort_perm cmp _).subset hx))
      (fun x hx => hlast x ((sort_perm cmp _).subset hx)) (sort_ordered ho hfirst),
      ih₁ hfirst, ih₂ hlast, ← List.filter_append, List.take_append_drop]

/-- The second list is the first one brought into order, ties keeping their order. -/
structure StableOrder (cmp : α → α → Ordering) (xs ys : List α) : Prop where
  perm : ys.Perm xs
  ordered : ys.Pairwise fun x y => cmp y x ≠ .lt
  ties : ∀ a ∈ xs, ys.filter (ties cmp a) = xs.filter (ties cmp a)

theorem stableOrder_sort (ho : Orders cmp p) (hp : ∀ x ∈ xs, p x) :
    StableOrder cmp xs (sort cmp xs) where
  perm := sort_perm cmp xs
  ordered := sort_ordered ho hp
  ties := fun a ha => sort_ties ho hp (hp a ha)

theorem StableOrder.filter (h : StableOrder cmp xs ys) (q : α → Bool) :
    StableOrder cmp (xs.filter q) (ys.filter q) where
  perm := h.perm.filter q
  ordered := h.ordered.filter q
  ties := fun a ha => by
    have hswap (zs : List α) : (zs.filter q).filter (MergeSort.ties cmp a) =
        (zs.filter (MergeSort.ties cmp a)).filter q :=
      List.filter_comm _ _ _
    rw [hswap, hswap, h.ties a (List.mem_of_mem_filter ha)]

/-- A list in order is determined by its elements and by the order of those that are tied. -/
theorem eq_of_ordered (ho : Orders cmp p) (hp : ∀ x ∈ xs, p x) (hperm : xs.Perm ys)
    (hx : xs.Pairwise fun x y => cmp y x ≠ .lt) (hy : ys.Pairwise fun x y => cmp y x ≠ .lt)
    (h : ∀ a ∈ xs, xs.filter (ties cmp a) = ys.filter (ties cmp a)) : xs = ys := by
  induction xs generalizing ys with
  | nil => exact hperm.nil_eq
  | cons x xs ih =>
    cases ys with
    | nil => exact hperm.eq_nil
    | cons y ys =>
      have hpx := hp x (by simp)
      have hpy := hp y (hperm.mem_iff.mpr (by simp))
      obtain ⟨hfirst, hxs⟩ := List.pairwise_cons.mp hx
      obtain ⟨hfirst', hys⟩ := List.pairwise_cons.mp hy
      have hxy : cmp x y ≠ .lt := by
        rcases List.mem_cons.mp (hperm.mem_iff.mp (by simp : x ∈ x :: xs)) with rfl | hin
        · exact ho.not_lt_self hpx
        · exact hfirst' x hin
      have hyx : cmp y x ≠ .lt := by
        rcases List.mem_cons.mp (hperm.mem_iff.mpr (by simp : y ∈ y :: ys)) with rfl | hin
        · exact ho.not_lt_self hpy
        · exact hfirst y hin
      have hheads := h x (by simp)
      rw [List.filter_cons_of_pos (ho.ties_self hpx),
        List.filter_cons_of_pos (ho.ties_of_not_lt hpx hpy hxy hyx)] at hheads
      obtain rfl : x = y := (List.cons.inj hheads).1
      have hrest : ∀ a ∈ xs, xs.filter (ties cmp a) = ys.filter (ties cmp a) := by
        intro a ha
        have hall := h a (by simp [ha])
        cases hax : ties cmp a x with
        | false => simpa [hax] using hall
        | true => simpa [hax] using hall
      rw [ih (fun z hz => hp z (by simp [hz])) hperm.cons_inv hxs hys hrest]

/-- There is one such list only. -/
theorem StableOrder.unique (ho : Orders cmp p) (hp : ∀ x ∈ xs, p x) (h : StableOrder cmp xs ys)
    (h' : StableOrder cmp xs zs) : ys = zs := by
  have hin : ∀ y ∈ ys, y ∈ xs := fun y hy => h.perm.subset hy
  refine eq_of_ordered ho (fun y hy => hp y (hin y hy)) (h.perm.trans h'.perm.symm) h.ordered
    h'.ordered fun a ha => ?_
  rw [h.ties a (hin a ha), h'.ties a (hin a ha)]

/-- It makes no difference whether a list is sorted before some of it is left out, or after. -/
theorem sort_filter (ho : Orders cmp p) (hp : ∀ x ∈ xs, p x) (q : α → Bool) :
    sort cmp (xs.filter q) = (sort cmp xs).filter q := by
  have hpart : ∀ x ∈ xs.filter q, p x := fun x hx => hp x (List.mem_of_mem_filter hx)
  exact (stableOrder_sort ho hpart).unique ho hpart ((stableOrder_sort ho hp).filter q)

/-- Sorting parts of a list beforehand makes no difference. -/
theorem sort_append (ho : Orders cmp p) (hp : ∀ x ∈ xs ++ ys, p x) :
    sort cmp (sort cmp xs ++ sort cmp ys) = sort cmp (xs ++ ys) := by
  have hperm : (sort cmp xs ++ sort cmp ys).Perm (xs ++ ys) :=
    (sort_perm cmp xs).append (sort_perm cmp ys)
  have hparts : ∀ x ∈ sort cmp xs ++ sort cmp ys, p x := fun x hx => hp x (hperm.subset hx)
  have hx : ∀ x ∈ xs, p x := fun x hx => hp x (List.mem_append_left ys hx)
  have hy : ∀ y ∈ ys, p y := fun y hy => hp y (List.mem_append_right xs hy)
  have hsorted : StableOrder cmp (xs ++ ys) (sort cmp (sort cmp xs ++ sort cmp ys)) := by
    refine ⟨(sort_perm cmp _).trans hperm, sort_ordered ho hparts, fun a ha => ?_⟩
    rw [sort_ties ho hparts (hp a ha), List.filter_append, sort_ties ho hx (hp a ha),
      sort_ties ho hy (hp a ha), List.filter_append]
  exact hsorted.unique ho hp (stableOrder_sort ho hp)

theorem merge_map {cmp' : β → β → Ordering} {f : α → β}
    (h : ∀ x ∈ xs, ∀ y ∈ ys, cmp' (f y) (f x) = cmp y x) :
    (merge cmp xs ys).map f = merge cmp' (xs.map f) (ys.map f) := by
  fun_induction merge cmp xs ys with
  | case1 ys => rw [List.map_nil, merge]
  | case2 xs => cases xs <;> simp [merge]
  | case3 x xs y ys hlt ih =>
    have hrest := ih fun z hz w hw => h z hz w (by simp [hw])
    rw [List.map_cons, hrest, List.map_cons, List.map_cons, merge, h x (by simp) y (by simp),
      if_pos hlt]
  | case4 x xs y ys hle ih =>
    have hrest := ih fun z hz w hw => h z (by simp [hz]) w hw
    rw [List.map_cons, hrest, List.map_cons, List.map_cons, merge, h x (by simp) y (by simp),
      if_neg hle]

/-- Sorting by what a function says of the elements. -/
theorem sort_map {cmp' : β → β → Ordering} {f : α → β}
    (h : ∀ x ∈ xs, ∀ y ∈ xs, cmp' (f y) (f x) = cmp y x) :
    (sort cmp xs).map f = sort cmp' (xs.map f) := by
  fun_induction sort cmp xs with
  | case1 xs hlen => rw [sort, dif_pos (by simpa using hlen)]
  | case2 xs hlen ih₁ ih₂ =>
    have hfirst : ∀ {x}, x ∈ xs.take (xs.length / 2) → x ∈ xs := List.mem_of_mem_take
    have hlast : ∀ {x}, x ∈ xs.drop (xs.length / 2) → x ∈ xs := List.mem_of_mem_drop
    have hparts : (merge cmp (sort cmp (xs.take (xs.length / 2)))
        (sort cmp (xs.drop (xs.length / 2)))).map f = merge cmp' _ _ := merge_map fun x hx y hy =>
      h x (hfirst ((sort_perm cmp _).subset hx)) y (hlast ((sort_perm cmp _).subset hy))
    rw [hparts, ih₁ fun x hx y hy => h x (hfirst hx) y (hfirst hy),
      ih₂ fun x hx y hy => h x (hlast hx) y (hlast hy), sort.eq_def cmp' (xs.map f),
      dif_neg (by simpa using hlen), List.length_map, List.map_take, List.map_drop]

end MergeSort

namespace Bookmark

open MergeSort (Orders)

variable {c : Criterion} {bs : List Bookmark}

/-- How bookmarks compare under a criterion. -/
def compareFor (c : Criterion) (b d : Bookmark) : Ordering :=
  match SortValue.ofBookmark c.key b, SortValue.ofBookmark c.key d with
  | .ok v, .ok w => SortValue.compareBy c.ascending v w
  | _, _ => .eq

theorem orders_compareFor (c : Criterion) : Orders (compareFor c) Timed := by
  obtain ⟨p, horders, hvalues⟩ := SortValue.exists_orders c.key
  have hcompare := SortValue.orders_compareBy horders c.ascending
  constructor
  · intro b d hb hd
    obtain ⟨v, hv, hpv⟩ := hvalues b hb
    obtain ⟨w, hw, hpw⟩ := hvalues d hd
    simp only [compareFor, hv, hw]
    exact hcompare.swap hpv hpw
  · intro b d e hb hd he
    obtain ⟨v, hv, hpv⟩ := hvalues b hb
    obtain ⟨w, hw, hpw⟩ := hvalues d hd
    obtain ⟨x, hx, hpx⟩ := hvalues e he
    simp only [compareFor, hv, hw, hx]
    exact hcompare.trans hpv hpw hpx

/-- Bookmarks that all have a value to be compared by can be sorted by it. -/
theorem sortBy_of_values (h : ∀ b ∈ bs, ∃ v, SortValue.ofBookmark c.key b = .ok v) :
    sortBy c bs = .ok (MergeSort.sort (compareFor c) bs) := by
  unfold sortBy
  split
  · rename_i hlen
    rw [MergeSort.sort, dif_pos hlen]
  · obtain ⟨ps, hps⟩ := keyed_ok h
    obtain ⟨hbs, hall⟩ := keyed_iff.mp hps
    let cmp (x y : SortValue × Bookmark) : Ordering := SortValue.compareBy c.ascending x.1 y.1
    have hsort : (MergeSort.sort cmp ps).map Prod.snd =
        MergeSort.sort (compareFor c) (ps.map Prod.snd) :=
      MergeSort.sort_map fun x hx y hy => by simp only [compareFor, hall x hx, hall y hy, cmp]
    rw [hps]
    show Except.ok ((MergeSort.sort cmp ps).map Prod.snd) = _
    rw [hsort, hbs]

/-- Bookmarks whose times are texts, or missing, can be sorted by any criterion. -/
theorem sortBy_eq (h : ∀ b ∈ bs, b.Timed) :
    sortBy c bs = .ok (MergeSort.sort (compareFor c) bs) := by
  obtain ⟨p, -, hvalues⟩ := SortValue.exists_orders c.key
  exact sortBy_of_values fun b hb => (hvalues b (h b hb)).imp fun _ hv => hv.1

end Bookmark

end LinkShelf

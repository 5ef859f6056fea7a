import LinkShelf.Proofs.Bookmark.Moment
import LinkShelf.Proofs.Plan.Selection
/-!
Sorting brings a list into order and leaves alone one that is in order. For bookmarks whose times
are texts, or missing, every criterion is an order; sorting by it once more changes nothing.
-/
namespace LinkShelf

namespace MergeSort

variable {α : Type} {cmp : α → α → Ordering} {p : α → Prop} {xs ys : List α}

theorem merge_of_ordered (h : ∀ x ∈ xs, ∀ y ∈ ys, cmp y x ≠ .lt) :
    merge cmp xs ys = xs ++ ys := by
  fun_induction merge cmp xs ys with
  | case1 ys => rfl
  | case2 xs => rw [List.append_nil]
  | case3 x xs y ys hlt ih => exact absurd hlt (h x (by simp) y (by simp))
  | case4 x xs y ys hle ih => rw [ih fun z hz => h z (by simp [hz]), List.cons_append]

theorem sort_of_ordered (h : xs.Pairwise fun x y => cmp y x ≠ .lt) : sort cmp xs = xs := by
  fun_induction sort cmp xs with
  | case1 xs hlen => rfl
  | case2 xs hlen ih₁ ih₂ =>
    have hparts := h
    rw [← List.take_append_drop (xs.length / 2) xs, List.pairwise_append] at hparts
    obtain ⟨hfirst, hlast, hbetween⟩ := hparts
    rw [ih₁ hfirst, ih₂ hlast, merge_of_ordered hbetween, List.take_append_drop]

/-- A comparison that puts the elements of a kind in order: swapping the sides swaps the outcome,
and what is not greater than the next is not greater than those after it. -/
structure Orders (cmp : α → α → Ordering) (p : α → Prop) : Prop where
  swap : ∀ {x y}, p x → p y → cmp y x = (cmp x y).swap
  trans : ∀ {x y z}, p x → p y → p z → cmp x y ≠ .gt → cmp y z ≠ .gt → cmp x z ≠ .gt

theorem Orders.reversed (h : Orders cmp p) : Orders (fun x y => (cmp x y).swap) p := by
  have hgt : ∀ {x y}, p x → p y → (cmp x y).swap ≠ .gt → cmp y x ≠ .gt := by
    intro x y hx hy hle
    rwa [h.swap hx hy]
  refine ⟨fun hx hy => by rw [h.swap hx hy], fun hx hy hz hxy hyz => ?_⟩
  rw [← h.swap hx hz]
  exact h.trans hz hy hx (hgt hy hz hyz) (hgt hx hy hxy)

theorem Orders.not_lt (h : Orders cmp p) {x y : α} (hx : p x) (hy : p y) :
    cmp y x ≠ .lt ↔ cmp x y ≠ .gt := by
  rw [h.swap hx hy]
  cases cmp x y <;> decide

/-- What is compared by a value of an ordered type is in order. -/
theorem orders_of_compare {β γ : Type} [Ord γ] [Std.TransOrd γ] (make : β → α) (value : β → γ)
    (h : ∀ a b, cmp (make a) (make b) = compare (value a) (value b)) :
    Orders cmp fun x => ∃ a, x = make a := by
  constructor
  · rintro _ _ ⟨a, rfl⟩ ⟨b, rfl⟩
    rw [h, h]
    exact Std.OrientedOrd.eq_swap
  · rintro _ _ _ ⟨a, rfl⟩ ⟨b, rfl⟩ ⟨c, rfl⟩ hab hbc
    rw [h] at hab hbc ⊢
    exact Ordering.isLE_iff_ne_gt.mp (Std.TransOrd.isLE_trans
      (Ordering.isLE_iff_ne_gt.mpr hab) (Ordering.isLE_iff_ne_gt.mpr hbc))

/-- What may stand before the first of an ordered list may stand before all of it. -/
theorem Orders.before_all (h : Orders cmp p) {x y : α} (hx : p x) (hp : ∀ z ∈ y :: ys, p z)
    (hys : (y :: ys).Pairwise fun x y => cmp y x ≠ .lt) (hxy : cmp y x ≠ .lt) :
    ∀ z ∈ y :: ys, cmp z x ≠ .lt := by
  intro z hz
  rcases List.mem_cons.mp hz with rfl | hmem
  · exact hxy
  · have hy := hp y List.mem_cons_self
    have hyz := (List.pairwise_cons.mp hys).1 z hmem
    rw [h.not_lt hx hy] at hxy
    rw [h.not_lt hy (hp z hz)] at hyz
    exact (h.not_lt hx (hp z hz)).mpr (h.trans hx hy (hp z hz) hxy hyz)

theorem merge_ordered (ho : Orders cmp p) (hpx : ∀ x ∈ xs, p x) (hpy : ∀ y ∈ ys, p y)
    (hxs : xs.Pairwise fun x y => cmp y x ≠ .lt) (hys : ys.Pairwise fun x y => cmp y x ≠ .lt) :
    (merge cmp xs ys).Pairwise fun x y => cmp y x ≠ .lt := by
  fun_induction merge cmp xs ys with
  | case1 ys => exact hys
  | case2 xs => exact hxs
  | case3 x xs y ys hlt ih =>
    have hx := hpx x (by simp)
    have hy := hpy y (by simp)
    obtain ⟨hafter, hrest⟩ := List.pairwise_cons.mp hys
    have hyx : cmp x y ≠ .lt := by
      rw [ho.swap hy hx, hlt]
      decide
    have hmerged := ih hpx (fun z hz => hpy z (by simp [hz])) hxs hrest
    refine List.pairwise_cons.mpr ⟨fun z hz => ?_, hmerged⟩
    rcases List.mem_append.mp ((merge_perm cmp _ _).subset hz) with hz | hz
    · exact ho.before_all hy hpx hxs hyx z hz
    · exact hafter z hz
  | case4 x xs y ys hle ih =>
    obtain ⟨hafter, hrest⟩ := List.pairwise_cons.mp hxs
    have hmerged := ih (fun z hz => hpx z (by simp [hz])) hpy hrest hys
    refine List.pairwise_cons.mpr ⟨fun z hz => ?_, hmerged⟩
    rcases List.mem_append.mp ((merge_perm cmp _ _).subset hz) with hz | hz
    · exact hafter z hz
    · exact ho.before_all (hpx x (by simp)) hpy hys hle z hz

theorem sort_ordered (ho : Orders cmp p) (hp : ∀ x ∈ xs, p x) :
    (sort cmp xs).Pairwise fun x y => cmp y x ≠ .lt := by
  fun_induction sort cmp xs with
  | case1 xs hlen =>
    rcases Nat.le_one_iff_eq_zero_or_eq_one.mp hlen with hnone | hone
    · rw [List.length_eq_zero_iff.mp hnone]
      exact .nil
    · obtain ⟨x, rfl⟩ := List.length_eq_one_iff.mp hone
      exact List.pairwise_singleton _ x
  | case2 xs hlen ih₁ ih₂ =>
    have hfirst : ∀ x ∈ xs.take (xs.length / 2), p x := fun x hx =>
      hp x (List.mem_of_mem_take hx)
    have hlast : ∀ x ∈ xs.drop (xs.length / 2), p x := fun x hx =>
      hp x (List.mem_of_mem_drop hx)
    exact merge_ordered ho (fun x hx => hfirst x ((sort_perm cmp _).subset hx))
      (fun x hx => hlast x ((sort_perm cmp _).subset hx)) (ih₁ hfirst) (ih₂ hlast)

end MergeSort

theorem Field.name_of_ofName? {s : String} {f : Field} (h : Field.ofName? s = some f) :
    f.name = s ∨ f.recordName = s := by
  unfold Field.ofName? at h
  simpa using List.find?_some h

/-- An unset time is looked up as an empty text. -/
theorem Bookmark.Timed.get {b : Bookmark} (h : b.Timed) :
    IsTime (b.get .createdAt) ∧ IsTime (b.get .updatedAt) := by
  constructor
  · rcases h.1 with hv | ⟨s, hv⟩
    · exact .inr ⟨"", by rw [Bookmark.get, hv]⟩
    · exact .inr ⟨s, by rw [Bookmark.get, hv]⟩
  · rcases h.2 with hv | ⟨s, hv⟩
    · exact .inr ⟨"", by rw [Bookmark.get, hv]⟩
    · exact .inr ⟨s, by rw [Bookmark.get, hv]⟩

namespace SortValue

open MergeSort (Orders orders_of_compare)

theorem orders_rating : Orders compare fun v => ∃ n, v = .rating n :=
  orders_of_compare SortValue.rating id fun _ _ => rfl

theorem orders_text : Orders compare fun v => ∃ s, v = .text s :=
  orders_of_compare SortValue.text id fun _ _ => rfl

theorem orders_time : Orders compare fun v => ∃ x : Bool × Nat, v = .time (.finite x.1 x.2) :=
  orders_of_compare (fun x : Bool × Nat => SortValue.time (.finite x.1 x.2))
    (fun x => Binary64.signed x.1 x.2) fun _ _ => rfl

theorem orders_compareBy {p : SortValue → Prop} (h : Orders compare p) (ascending : Bool) :
    Orders (compareBy ascending) p := by
  cases ascending with
  | true => exact h
  | false => exact h.reversed

/-- All bookmarks have values of one kind under a key, and these are in order. -/
theorem exists_orders (key : String) : ∃ p : SortValue → Prop, Orders compare p ∧
    ∀ b : Bookmark, b.Timed → ∃ v, ofBookmark key b = .ok v ∧ p v := by
  have htime : ∀ {v : Json}, Bookmark.IsTime v → ∃ w, (do
      pure (.time (← Bookmark.timestamp v)) : Except Fault SortValue) = .ok w ∧
      ∃ x : Bool × Nat, w = .time (.finite x.1 x.2) := by
    intro v hv
    obtain ⟨negative, units, h⟩ := Bookmark.timestamp_finite hv
    rw [h]
    exact ⟨_, rfl, (negative, units), rfl⟩
  by_cases hrating : key = "rating"
  · refine ⟨_, orders_rating, fun b _ => ⟨.rating b.rating, ?_, _, rfl⟩⟩
    rw [ofBookmark, if_pos hrating]
  by_cases hcreated : key = "created_at"
  · refine ⟨_, orders_time, fun b hb => ?_⟩
    rw [ofBookmark, if_neg hrating, if_pos hcreated]
    exact htime hb.get.1
  by_cases hupdated : key = "updated_at"
  · refine ⟨_, orders_time, fun b hb => ?_⟩
    rw [ofBookmark, if_neg hrating, if_neg hcreated, if_pos hupdated]
    exact htime hb.get.2
  · refine ⟨_, orders_text, fun b _ => ⟨.text (Text.lower (b.textOf key)), ?_, _, rfl⟩⟩
    rw [ofBookmark, if_neg hrating, if_neg hcreated, if_neg hupdated]

end SortValue

namespace Bookmark

variable {c : Criterion} {bs cs : List Bookmark}

/-- One bookmark may stand before another when sorted by a criterion. -/
def Before (c : Criterion) (b d : Bookmark) : Prop :=
  ∃ v w, SortValue.ofBookmark c.key b = .ok v ∧ SortValue.ofBookmark c.key d = .ok w ∧
    SortValue.compareBy c.ascending w v ≠ .lt

theorem keyed_iff {key : String} {ps : List (SortValue × Bookmark)} : keyed key bs = .ok ps ↔
    ps.map Prod.snd = bs ∧ ∀ p ∈ ps, SortValue.ofBookmark key p.2 = .ok p.1 := by
  induction bs generalizing ps with
  | nil =>
    rw [List.map_eq_nil_iff]
    constructor
    · rintro ⟨⟩
      exact ⟨rfl, by simp⟩
    · rintro ⟨rfl, -⟩
      rfl
  | cons b bs ih =>
    unfold keyed at ih ⊢
    rw [List.mapM_cons, bind_eq_ok]
    constructor
    · rintro ⟨p, hp, h⟩
      obtain ⟨v, hv, hp⟩ := bind_eq_ok.mp hp
      obtain ⟨qs, hqs, h⟩ := bind_eq_ok.mp h
      cases hp
      cases h
      obtain ⟨hbs, hall⟩ := ih.mp hqs
      refine ⟨by rw [List.map_cons, hbs], fun q hq => ?_⟩
      rcases List.mem_cons.mp hq with rfl | hq
      · exact hv
      · exact hall q hq
    · rintro ⟨hbs, hall⟩
      cases ps with
      | nil => cases hbs
      | cons p qs =>
        rw [List.map_cons] at hbs
        obtain ⟨rfl, hrest⟩ := List.cons.inj hbs
        have hqs := ih.mpr ⟨hrest, fun q hq => hall q (List.mem_cons_of_mem p hq)⟩
        refine ⟨p, ?_, ?_⟩
        · rw [hall p List.mem_cons_self]
          rfl
        · rw [hqs]
          rfl

theorem keyed_ok {key : String} (h : ∀ b ∈ bs, ∃ v, SortValue.ofBookmark key b = .ok v) :
    ∃ ps, keyed key bs = .ok ps := by
  induction bs with
  | nil => exact ⟨[], rfl⟩
  | cons b bs ih =>
    obtain ⟨v, hv⟩ := h b List.mem_cons_self
    obtain ⟨ps, hps⟩ := ih fun d hd => h d (List.mem_cons_of_mem b hd)
    obtain ⟨hbs, hall⟩ := keyed_iff.mp hps
    refine ⟨(v, b) :: ps, keyed_iff.mpr ⟨by rw [List.map_cons, hbs], fun p hp => ?_⟩⟩
    rcases List.mem_cons.mp hp with rfl | hp
    · exact hv
    · exact hall p hp

theorem sortBy_of_before (h : bs.Pairwise (Before c)) : sortBy c bs = .ok bs := by
  unfold sortBy
  split
  · rfl
  · rename_i hlen
    have hvalues : ∀ b ∈ bs, ∃ v, SortValue.ofBookmark c.key b = .ok v := by
      match bs, hlen, h with
      | [], _, _ => simp
      | [b], hlen, _ => exact absurd (Nat.le_refl 1) hlen
      | b :: d :: bs, _, h =>
        have hfirst := (List.pairwise_cons.mp h).1
        intro x hx
        rcases List.mem_cons.mp hx with rfl | hx
        · obtain ⟨v, w, hv, -, -⟩ := hfirst d List.mem_cons_self
          exact ⟨v, hv⟩
        · obtain ⟨v, w, -, hw, -⟩ := hfirst x hx
          exact ⟨w, hw⟩
    obtain ⟨ps, hps⟩ := keyed_ok hvalues
    obtain ⟨hbs, hall⟩ := keyed_iff.mp hps
    have hpairs : ps.Pairwise fun p q => SortValue.compareBy c.ascending q.1 p.1 ≠ .lt := by
      rw [← hbs, List.pairwise_map] at h
      refine h.imp_of_mem fun {p q} hp hq hpq => ?_
      obtain ⟨v, w, hv, hw, hle⟩ := hpq
      cases (hall p hp).symm.trans hv
      cases (hall q hq).symm.trans hw
      exact hle
    rw [hps]
    show Except.ok ((MergeSort.sort _ ps).map Prod.snd) = _
    rw [MergeSort.sort_of_ordered hpairs, hbs]

theorem sortBy_before (hbs : ∀ b ∈ bs, b.Timed) (h : sortBy c bs = .ok cs) :
    cs.Pairwise (Before c) := by
  unfold sortBy at h
  split at h
  · rename_i hlen
    cases h
    match bs, hlen with
    | [], _ => exact .nil
    | [b], _ => exact List.pairwise_singleton _ b
  · obtain ⟨ps, hps, h⟩ := bind_eq_ok.mp h
    cases h
    obtain ⟨hsnd, hall⟩ := keyed_iff.mp hps
    obtain ⟨p, horders, hvalues⟩ := SortValue.exists_orders c.key
    have hkind : ∀ x ∈ ps, p x.1 := by
      intro x hx
      have hmem : x.2 ∈ bs := hsnd ▸ List.mem_map_of_mem hx
      obtain ⟨v, hv, hp⟩ := hvalues x.2 (hbs x.2 hmem)
      cases hv.symm.trans (hall x hx)
      exact hp
    have hcompare := SortValue.orders_compareBy horders c.ascending
    have hpairs : MergeSort.Orders (fun x y : SortValue × Bookmark =>
        SortValue.compareBy c.ascending x.1 y.1) fun x => p x.1 :=
      ⟨hcompare.swap, hcompare.trans⟩
    have hsorted := MergeSort.sort_ordered hpairs hkind
    rw [List.pairwise_map]
    refine hsorted.imp_of_mem fun {x y} hx hy hxy => ?_
    have hperm := MergeSort.sort_perm (fun x y : SortValue × Bookmark =>
        SortValue.compareBy c.ascending x.1 y.1) ps
    exact ⟨x.1, y.1, hall x (hperm.subset hx), hall y (hperm.subset hy), hxy⟩

/-- Only the field of that name looks at places. -/
theorem textOf_unplaced {name : String} (h : name ≠ "position") (b : Bookmark) :
    b.unplaced.textOf name = b.textOf name := by
  have hnamed : b.unplaced.named name = b.named name := by
    unfold named
    cases hf : Field.ofName? name with
    | none => rfl
    | some f =>
      cases f with
      | position =>
        rcases Field.name_of_ofName? hf with rfl | rfl <;> exact absurd rfl h
      | _ => rfl
  exact congrArg comparedText hnamed

theorem ofBookmark_unplaced {key : String} (h : key ≠ "position") (b : Bookmark) :
    SortValue.ofBookmark key b.unplaced = SortValue.ofBookmark key b := by
  unfold SortValue.ofBookmark
  rw [textOf_unplaced h]
  rfl

theorem before_numbered (hkey : c.key ≠ "position") (h : bs.Pairwise (Before c)) :
    (Shelf.numbered bs).Pairwise (Before c) := by
  have hunplaced : ∀ ds : List Bookmark,
      (Shelf.contents ds).Pairwise (Before c) ↔ ds.Pairwise (Before c) := by
    intro ds
    rw [Shelf.contents, List.pairwise_map]
    simp only [Before, ofBookmark_unplaced hkey]
    rfl
  rw [← hunplaced, Shelf.contents_numbered, hunplaced]
  exact h

end Bookmark

end LinkShelf

import LinkShelf.Bookmark.Record
import LinkShelf.Proofs.Store.Identity
import LinkShelf.Store.Order
import Mathlib.Data.List.Nodup
/-!
What the writes do to a collection: one bookmark more, another in the place of one, one less, or
all of them in another order.
-/
namespace LinkShelf

namespace Bookmark

theorem texts_not_blank (vs : List Json) : ∀ t ∈ Tags.texts vs, Text.blank t = false := by
  induction vs with
  | nil => simp [Tags.texts]
  | cons v vs ih =>
    cases hb : Text.blank v.text <;> cases v <;> simp_all [Tags.texts]

theorem clampRating_le {v : Json} {n : Nat} (h : clampRating v = .ok n) : n ≤ 5 := by
  unfold clampRating at h
  obtain ⟨x, -, hx⟩ := bind_eq_ok.mp h
  unfold clamp at hx
  split at hx
  · cases hx
    exact Nat.zero_le 5
  · obtain ⟨k, -, hk⟩ := bind_eq_ok.mp hx
    cases hk
    exact Nat.min_le_left 5 _

/-- Whatever is built is in form, and nothing but rating, tags and status is touched. -/
theorem build_ok {b c : Bookmark} {rating tags status : Json}
    (h : build b rating tags status = .ok c) :
    c.formed = c ∧ ∃ n ts, c = { b with rating := n, tags := ts, status := .ofJson status } := by
  unfold build at h
  obtain ⟨n, hn, h⟩ := bind_eq_ok.mp h
  obtain ⟨vs, -, h⟩ := bind_eq_ok.mp h
  cases h
  refine ⟨?_, n, Tags.texts vs, rfl⟩
  have hr : min 5 n = n := by
    have := clampRating_le hn
    omega
  have hf : (Tags.texts vs).filter (fun t => !Text.blank t) = Tags.texts vs := by
    rw [List.filter_eq_self]
    intro t ht
    simp [texts_not_blank vs t ht]
  simp only [formed, hr, hf]

/-- A patch leaves the id alone. -/
theorem patch_ok {b c : Bookmark} {ms : Members} (h : b.patch ms = .ok c) :
    c.id = b.id ∧ c.formed = c := by
  unfold patch at h
  obtain ⟨tags, -, h⟩ := bind_eq_ok.mp h
  obtain ⟨hf, n, ts, rfl⟩ := build_ok h
  exact ⟨rfl, hf⟩

end Bookmark

namespace Shelf

variable {bs xs ys : List Bookmark} {b c : Bookmark} {id : String}

/-- In a collection, all bookmarks but one are under other ids than that one. -/
theorem Named.others (h : Named (xs ++ b :: ys)) (hid : b.id = some id) :
    (∀ x ∈ xs, hasId id x = false) ∧ ∀ y ∈ ys, hasId id y = false := by
  have hd := h.distinct
  simp only [ids, List.map_append, List.map_cons, List.nodup_append, List.nodup_cons] at hd
  obtain ⟨-, ⟨hys, -⟩, hxs⟩ := hd
  constructor
  · intro x hx
    have hne := hxs x.id (List.mem_map_of_mem hx) b.id (by simp)
    simpa [hasId, ← hid] using hne
  · intro y hy
    have hne : y.id ≠ b.id := fun he => hys (he ▸ List.mem_map_of_mem hy)
    simpa [hasId, ← hid] using hne

theorem find?_hasId (h : bs.find? (hasId id) = some b) :
    ∃ xs ys, bs = xs ++ b :: ys ∧ b.id = some id := by
  obtain ⟨hb, xs, ys, hbs, -⟩ := List.find?_eq_some_iff_append.mp h
  exact ⟨xs, ys, hbs, hasId_iff.mp hb⟩

theorem Named.map_change (h : Named (xs ++ b :: ys)) (hid : b.id = some id) (c : Bookmark) :
    ((xs ++ b :: ys).map fun x => if hasId id x then c else x) = xs ++ c :: ys := by
  obtain ⟨hxs, hys⟩ := h.others hid
  have hsame : ∀ zs : List Bookmark, (∀ z ∈ zs, hasId id z = false) →
      (zs.map fun x => if hasId id x then c else x) = zs := by
    intro zs hzs
    conv => rhs; rw [← List.map_id zs]
    refine List.map_congr_left fun z hz => ?_
    simp [hzs z hz]
  rw [List.map_append, List.map_cons, hsame xs hxs, hsame ys hys, if_pos (hasId_iff.mpr hid)]

theorem Named.filter_other (h : Named (xs ++ b :: ys)) (hid : b.id = some id) :
    (xs ++ b :: ys).filter (fun x => !hasId id x) = xs ++ ys := by
  obtain ⟨hxs, hys⟩ := h.others hid
  have hall : ∀ zs : List Bookmark, (∀ z ∈ zs, hasId id z = false) →
      zs.filter (fun x => !hasId id x) = zs := by
    intro zs hzs
    rw [List.filter_eq_self]
    intro z hz
    simp [hzs z hz]
  rw [List.filter_append, hall xs hxs, List.filter_cons_of_neg (by simp [hasId_iff.mpr hid]),
    hall ys hys]

/-- To leave out several is to leave out the first and then the others. -/
theorem filter_gone_cons (id : String) (gone : List String) (bs : List Bookmark) :
    (bs.filter fun b => !(id :: gone).any (hasId · b)) =
      (bs.filter fun b => !hasId id b).filter fun b => !gone.any (hasId · b) := by
  rw [List.filter_filter]
  refine List.filter_congr fun b _ => ?_
  rw [List.any_cons, Bool.not_or, Bool.and_comm]

/-- What is left when several are left out has other ids than these. -/
theorem mem_ids_left (gone : List String) (bs : List Bookmark) :
    some id ∈ ids (bs.filter fun b => !gone.any (hasId · b)) ↔ some id ∈ ids bs ∧ id ∉ gone := by
  have hany : ∀ b : Bookmark, b.id = some id → (gone.any (hasId · b) = true ↔ id ∈ gone) := by
    intro b hb
    simp [hasId, hb]
  simp only [ids, List.mem_map, List.mem_filter]
  constructor
  · rintro ⟨b, ⟨hb, hstays⟩, hid⟩
    refine ⟨⟨b, hb, hid⟩, fun hgone => ?_⟩
    rw [(hany b hid).mpr hgone] at hstays
    cases hstays
  · rintro ⟨⟨b, hb, hid⟩, hnot⟩
    refine ⟨b, ⟨hb, ?_⟩, hid⟩
    rw [Bool.not_eq_true', Bool.eq_false_iff]
    exact fun hgone => hnot ((hany b hid).mp hgone)

theorem Named.eraseP_hasId (h : Named (xs ++ b :: ys)) (hid : b.id = some id) :
    (xs ++ b :: ys).eraseP (hasId id) = xs ++ ys := by
  obtain ⟨hxs, -⟩ := h.others hid
  rw [List.eraseP_append_right _ (by simpa using hxs),
    List.eraseP_cons_of_pos (hasId_iff.mpr hid)]

theorem Named.drop (h : Named (xs ++ b :: ys)) : Named (xs ++ ys) :=
  h.of_subperm ((List.sublist_cons_self b ys).append_left xs).subperm

theorem Named.replace (h : Named (xs ++ b :: ys)) (hid : c.id = b.id) (hf : c.formed = c) :
    Named (xs ++ c :: ys) := by
  have hids : ids (xs ++ c :: ys) = ids (xs ++ b :: ys) := by simp [ids, hid]
  have hmem : ∀ x ∈ xs ++ c :: ys, x ∈ xs ++ b :: ys ∨ x = c := by
    intro x hx
    simp only [List.mem_append, List.mem_cons] at hx ⊢
    tauto
  refine ⟨?_, hids ▸ h.distinct, ?_⟩
  · intro x hx
    rcases hmem x hx with hx | rfl
    · exact h.filled x hx
    · rw [hid]
      exact h.filled b (by simp)
  · intro x hx
    rcases hmem x hx with hx | rfl
    · exact h.formed x hx
    · exact hf

theorem Named.find?_eq (h : Named bs) (hb : b ∈ bs) (hid : b.id = some id) :
    bs.find? (hasId id) = some b := by
  obtain ⟨xs, ys, rfl⟩ := List.append_of_mem hb
  refine List.find?_eq_some_iff_append.mpr ⟨hasId_iff.mpr hid, xs, ys, rfl, ?_⟩
  intro x hx
  simp [(h.others hid).1 x hx]

theorem Named.nodup (h : Named bs) : bs.Nodup := List.Nodup.of_map _ h.distinct

/-- What holds of no ids, and of some ids if of the others after the first one is taken out of them,
holds of all. -/
theorem eraseDups_induction {motive : List String → Prop} (nil : motive [])
    (cons : ∀ x order, motive (order.filter fun y => !(y == x)) → motive (x :: order))
    (order : List String) : motive order := by
  induction hn : order.length using Nat.strongRecOn generalizing order with
  | ind n ih =>
    cases order with
    | nil => exact nil
    | cons x order =>
      have hlen := List.length_filter_le (fun y => !(y == x)) order
      refine cons x order (ih _ ?_ _ rfl)
      simp only [List.length_cons] at hn
      omega

theorem nodup_eraseDups (order : List String) : order.eraseDups.Nodup := by
  induction order using eraseDups_induction with
  | nil => simp
  | cons x order ih =>
    rw [List.eraseDups_cons, List.nodup_cons]
    refine ⟨?_, ih⟩
    simp [List.mem_eraseDups]

theorem mem_arranged (h : Named bs) (order : List String) : b ∈ arranged order bs ↔ b ∈ bs := by
  simp only [arranged, List.mem_append, List.mem_filterMap, List.mem_eraseDups, List.mem_filter]
  constructor
  · rintro (⟨id, -, hf⟩ | ⟨hb, -⟩)
    · exact List.mem_of_find?_eq_some hf
    · exact hb
  · intro hb
    cases hany : order.any (hasId · b) with
    | false => exact .inr ⟨hb, by simp⟩
    | true =>
      obtain ⟨id, hid, hb'⟩ := List.any_eq_true.mp hany
      exact .inl ⟨id, hid, h.find?_eq hb (hasId_iff.mp hb')⟩

/-- However it is asked for, another order holds the same bookmarks. -/
theorem arranged_perm (h : Named bs) (order : List String) : (arranged order bs).Perm bs := by
  refine (List.perm_ext_iff_of_nodup ?_ h.nodup).mpr fun b => mem_arranged h order
  refine List.nodup_append.mpr ⟨?_, h.nodup.filter _, ?_⟩
  · refine List.Nodup.filterMap ?_ (nodup_eraseDups _)
    intro id id' b hb hb'
    have hid := hasId_iff.mp (List.find?_some hb)
    have hid' := hasId_iff.mp (List.find?_some hb')
    exact Option.some.inj (hid.symm.trans hid')
  · rintro b hb c hc rfl
    obtain ⟨id, hid, hf⟩ := List.mem_filterMap.mp hb
    have hnone := (List.mem_filter.mp hc).2
    have hany : order.any (hasId · b) = true :=
      List.any_eq_true.mpr ⟨id, List.mem_eraseDups.mp hid, List.find?_some hf⟩
    simp [hany] at hnone

theorem eraseDups_of_nodup {order : List String} (h : order.Nodup) : order.eraseDups = order := by
  induction order with
  | nil => rfl
  | cons x order ih =>
    obtain ⟨hx, hrest⟩ := List.nodup_cons.mp h
    have hkept : order.filter (fun y => !(y == x)) = order := by
      refine List.filter_eq_self.mpr fun y hy => ?_
      have hne : y ≠ x := fun he => hx (he ▸ hy)
      simpa using hne
    rw [List.eraseDups_cons, hkept, ih hrest]

/-- The ids by which an order is stored; without one a bookmark has no place in it. -/
def orderIds (bs : List Bookmark) : List String :=
  bs.filterMap fun b =>
    match b.id with
    | some "" => none
    | id => id

theorem sortedIds_eq_ok {c : Criterion} {order : List String} :
    sortedIds c bs = .ok order ↔ ∃ sorted, Bookmark.sortBy c bs = .ok sorted ∧
      order = orderIds sorted := by
  unfold sortedIds
  rw [bind_eq_ok]
  constructor
  · rintro ⟨sorted, hsorted, h⟩
    exact ⟨sorted, hsorted, (Except.ok.inj h).symm⟩
  · rintro ⟨sorted, hsorted, rfl⟩
    exact ⟨sorted, hsorted, rfl⟩

theorem Named.ids_eq (h : Named bs) : ids bs = (orderIds bs).map some := by
  have hfilled := h.filled
  clear h
  induction bs with
  | nil => rfl
  | cons b bs ih =>
    obtain ⟨id, hid, hne⟩ := hfilled b List.mem_cons_self
    have hhead : orderIds (b :: bs) = id :: orderIds bs := by
      rw [orderIds, List.filterMap_cons_some]
      · rfl
      · rw [hid]
        split
        · rename_i heq
          exact absurd (Option.some.inj heq) hne
        · rfl
    rw [hhead, List.map_cons, ← ih fun c hc => hfilled c (List.mem_cons_of_mem b hc), ids,
      List.map_cons, hid]
    rfl

theorem mem_orderIds (h : Named bs) (hb : b ∈ bs) (hid : b.id = some id) : id ∈ orderIds bs := by
  have hmem : some id ∈ ids bs := hid ▸ List.mem_map_of_mem hb
  rw [h.ids_eq] at hmem
  simpa using hmem

/-- The ids of another order say all of it. -/
theorem arranged_orderIds (h : Named bs) {sorted : List Bookmark} (hsorted : sorted.Perm bs) :
    arranged (orderIds sorted) bs = sorted := by
  have hnamed : Named sorted := h.of_subperm hsorted.subperm
  have hnodup : (orderIds sorted).Nodup := by
    have hdistinct := hnamed.distinct
    rw [hnamed.ids_eq] at hdistinct
    exact hdistinct.of_map some
  have hnone : (bs.filter fun b => !(orderIds sorted).any (hasId · b)) = [] := by
    refine List.filter_eq_nil_iff.mpr fun b hb => ?_
    obtain ⟨id, hid, -⟩ := h.filled b hb
    have hany : (orderIds sorted).any (hasId · b) = true := List.any_eq_true.mpr
      ⟨id, mem_orderIds hnamed (hsorted.mem_iff.mpr hb) hid, hasId_iff.mpr hid⟩
    simp [hany]
  have hfound : (orderIds sorted).filterMap (fun id => bs.find? (hasId id)) = sorted := by
    rw [orderIds, List.filterMap_filterMap]
    refine (List.filterMap_congr fun b hb => ?_).trans List.filterMap_some
    obtain ⟨id, hid, hne⟩ := hnamed.filled b hb
    rw [hid]
    split
    · rename_i heq
      exact absurd (Option.some.inj heq) hne
    · exact h.find?_eq (hsorted.mem_iff.mp hb) hid
  rw [arranged, eraseDups_of_nodup hnodup, hfound, hnone, List.append_nil]

end Shelf

end LinkShelf

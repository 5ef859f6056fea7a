import LinkShelf.Store.Write
import Mathlib.Data.List.Perm.Subperm
/-!
Collections: bookmarks that carry their place and an id of their own. Two collections are the same
apart from places when they have the same contents.
-/
namespace LinkShelf

namespace Bookmark

def unplaced (b : Bookmark) : Bookmark := { b with position := .null }

@[simp] theorem unplaced_id (b : Bookmark) : b.unplaced.id = b.id := rfl

@[simp] theorem formed_id (b : Bookmark) : b.formed.id = b.id := rfl

@[simp] theorem underId_id (b : Bookmark) (id : String) : (b.underId id).id = some id := rfl

theorem formed_formed (b : Bookmark) : b.formed.formed = b.formed := by
  have hr : min 5 (min 5 b.rating) = min 5 b.rating := by omega
  simp only [formed, hr, List.filter_filter, Bool.and_self]

theorem formed_iff {b : Bookmark} :
    b.formed = b ↔ b.rating ≤ 5 ∧ ∀ t ∈ b.tags, Text.blank t = false := by
  have hr : min 5 b.rating = b.rating ↔ b.rating ≤ 5 := by omega
  cases b
  simp [formed, List.filter_eq_self, hr, and_comm]

theorem underId_formed (b : Bookmark) (id : String) : (b.underId id).formed = b.underId id :=
  congrArg (fun c : Bookmark => { c with id := some id }) b.formed_formed

end Bookmark

namespace Shelf

variable {bs cs : List Bookmark} {b c : Bookmark} {id : String}

/-- The bookmarks of a collection in their order, apart from their places. -/
def contents (bs : List Bookmark) : List Bookmark := bs.map Bookmark.unplaced

def ids (bs : List Bookmark) : List (Option String) := bs.map (·.id)

theorem ids_contents (bs : List Bookmark) : ids (contents bs) = ids bs := by
  simp [ids, contents]

theorem numbered_getElem? (bs : List Bookmark) (i : Nat) :
    (numbered bs)[i]? = bs[i]?.map fun b => { b with position := .int i } := by
  cases h : bs[i]? <;> simp [numbered, h]

theorem contents_numbered (bs : List Bookmark) : contents (numbered bs) = contents bs := by
  apply List.ext_getElem?
  intro i
  cases h : bs[i]? <;> simp [contents, numbered_getElem?, h, Bookmark.unplaced]

/-- Places depend on nothing but the contents. -/
theorem numbered_congr (h : contents bs = contents cs) : numbered bs = numbered cs := by
  apply List.ext_getElem?
  intro i
  have hi := congrArg (·[i]?) h
  simp only [contents, List.getElem?_map] at hi
  rw [numbered_getElem?, numbered_getElem?]
  cases hb : bs[i]? <;> cases hc : cs[i]? <;> simp [hb, hc, Bookmark.unplaced] at hi ⊢
  rename_i b c
  cases b
  cases c
  simpa using hi

@[simp] theorem numbered_numbered (bs : List Bookmark) : numbered (numbered bs) = numbered bs :=
  numbered_congr (contents_numbered bs)

@[simp] theorem ids_numbered (bs : List Bookmark) : ids (numbered bs) = ids bs := by
  rw [← ids_contents, contents_numbered, ids_contents]

theorem contents_filter (p : Bookmark → Bool) (hp : ∀ b, p b.unplaced = p b)
    (bs : List Bookmark) : contents (bs.filter p) = (contents bs).filter p := by
  have hcomp : p ∘ Bookmark.unplaced = p := funext hp
  rw [contents, contents, List.filter_map, hcomp]

/-- What is left after a choice that does not look at places. -/
theorem numbered_filter (p : Bookmark → Bool) (hp : ∀ b, p b.unplaced = p b)
    (bs : List Bookmark) : numbered ((numbered bs).filter p) = numbered (bs.filter p) := by
  apply numbered_congr
  rw [contents_filter p hp, contents_filter p hp, contents_numbered]

theorem exists_unplaced_eq (h : (contents bs).Perm (contents cs)) (hb : b ∈ bs) :
    ∃ c ∈ cs, c.unplaced = b.unplaced :=
  List.mem_map.mp (h.subset (List.mem_map_of_mem hb))

theorem mem_numbered (h : b ∈ numbered bs) :
    ∃ c ∈ bs, ∃ i : Nat, b = { c with position := .int i } := by
  obtain ⟨i, hi⟩ := List.mem_iff_getElem?.mp h
  rw [numbered_getElem?] at hi
  cases hc : bs[i]? with
  | none => simp [hc] at hi
  | some c =>
    simp only [hc, Option.map_some, Option.some.injEq] at hi
    exact ⟨c, List.mem_of_getElem? hc, i, hi.symm⟩

/-- Every bookmark has an id, no two have the same, and each is in form. -/
structure Named (bs : List Bookmark) : Prop where
  filled : ∀ b ∈ bs, ∃ id, b.id = some id ∧ id ≠ ""
  distinct : (ids bs).Nodup
  formed : ∀ b ∈ bs, b.formed = b

/-- A collection as a shelf holds it. -/
structure Sound (bs : List Bookmark) : Prop extends Named bs where
  placed : numbered bs = bs

theorem named_nil : Named [] := ⟨by simp, by simp [ids], by simp⟩

theorem Named.numbered (h : Named bs) : Sound (numbered bs) := by
  refine ⟨⟨?_, ?_, ?_⟩, numbered_numbered bs⟩
  · intro b hb
    obtain ⟨c, hc, i, rfl⟩ := mem_numbered hb
    exact h.filled c hc
  · rw [ids_numbered]
    exact h.distinct
  · intro b hb
    obtain ⟨c, hc, i, rfl⟩ := mem_numbered hb
    have hf := h.formed c hc
    cases c
    simpa [Bookmark.formed] using hf

theorem Named.of_subperm (h : Named bs) (hs : List.Subperm cs bs) : Named cs := by
  refine ⟨fun b hb => h.filled b (hs.subset hb), ?_, fun b hb => h.formed b (hs.subset hb)⟩
  obtain ⟨ds, hp, hd⟩ := hs
  have hn : (ids ds).Nodup := (hd.map Bookmark.id).nodup h.distinct
  exact (hp.map Bookmark.id).nodup_iff.mp hn

theorem Named.append (h : Named bs) (hid : b.id = some id) (hne : id ≠ "")
    (hnew : some id ∉ ids bs) (hf : b.formed = b) : Named (bs ++ [b]) := by
  refine ⟨?_, ?_, ?_⟩
  · intro c hc
    rcases List.mem_append.mp hc with hc | hc
    · exact h.filled c hc
    · rw [List.mem_singleton.mp hc]
      exact ⟨id, hid, hne⟩
  · have hl : ids (bs ++ [b]) = ids bs ++ [some id] := by simp [ids, hid]
    rw [hl, List.nodup_append]
    refine ⟨h.distinct, by simp, ?_⟩
    intro x hx y hy hxy
    rw [List.mem_singleton.mp hy] at hxy
    exact hnew (hxy ▸ hx)
  · intro c hc
    rcases List.mem_append.mp hc with hc | hc
    · exact h.formed c hc
    · rw [List.mem_singleton.mp hc]
      exact hf

theorem hasId_iff : hasId id b = true ↔ b.id = some id := by simp [hasId]

theorem Named.unique (h : Named bs) {i j : Nat} (hi : bs[i]? = some b) (hj : bs[j]? = some c)
    (hid : b.id = c.id) : i = j := by
  have hl : i < (ids bs).length := by
    have := (List.getElem?_eq_some_iff.mp hi).1
    simpa [ids] using this
  refine (List.getElem?_inj hl h.distinct).mp ?_
  simp [ids, hi, hj, hid]

/-- An id stands for one bookmark at one place. -/
theorem Named.split_unique {xs ys zs ws : List Bookmark} (hn : Named (xs ++ b :: ys))
    (h : xs ++ b :: ys = zs ++ c :: ws) (hid : b.id = c.id) :
    xs = zs ∧ b = c := by
  have hb : (xs ++ b :: ys)[xs.length]? = some b := by simp
  have hc : (xs ++ b :: ys)[zs.length]? = some c := by simp [h]
  have hlength := hn.unique hb hc hid
  obtain ⟨hxs, htail⟩ := List.append_inj h hlength
  exact ⟨hxs, (List.cons.inj htail).1⟩

theorem Named.change (h : Named bs) (f : Bookmark → Bookmark) (hid : ∀ b, (f b).id = b.id)
    (hf : ∀ b, b.formed = b → (f b).formed = f b) : Named (bs.map f) := by
  refine ⟨?_, ?_, ?_⟩
  · intro b hb
    obtain ⟨c, hc, rfl⟩ := List.mem_map.mp hb
    rw [hid]
    exact h.filled c hc
  · have hi : ids (bs.map f) = ids bs := by simp [ids, hid]
    rw [hi]
    exact h.distinct
  · intro b hb
    obtain ⟨c, hc, rfl⟩ := List.mem_map.mp hb
    exact hf c (h.formed c hc)

end Shelf

end LinkShelf

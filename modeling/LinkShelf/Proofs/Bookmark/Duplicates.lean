import LinkShelf.Act
import LinkShelf.Bookmark.Duplicates
import LinkShelf.Proofs.Store.Change
/-!
Which bookmarks count as duplicates: those that come after another one of the same title and
address. The first of them is never one.
-/
namespace LinkShelf.Bookmark

open LinkShelf.Shelf

variable {bs : List Bookmark} {seen : List (String × String)} {staged : List String} {id : String}

/-- The bookmark of an id comes after another one that has the same title and address and is not
among the staged ones. -/
def Preceded (staged : List String) (view : List Bookmark) (id : String) : Prop :=
  ∃ xs b ys c zs key, view = xs ++ b :: (ys ++ c :: zs) ∧ c.id = some id ∧
    b.duplicateKey = .ok key ∧ c.duplicateKey = .ok key ∧ ∀ i ∈ staged, b.id ≠ some i

/-- A bookmark whose key was seen before is staged, unless it has no id. -/
theorem duplicatesAfter_cons {b : Bookmark} (h : duplicatesAfter seen (b :: bs) = .ok staged) :
    ∃ key, b.duplicateKey = .ok key ∧
      ((key ∈ seen ∧ ∃ rest, duplicatesAfter seen bs = .ok rest ∧
          staged = (b.id.filter (· ≠ "")).toList ++ rest) ∨
        key ∉ seen ∧ duplicatesAfter (key :: seen) bs = .ok staged) := by
  unfold duplicatesAfter at h
  obtain ⟨key, hkey, h⟩ := bind_eq_ok.mp h
  refine ⟨key, hkey, ?_⟩
  by_cases hin : key ∈ seen
  · rw [if_pos hin] at h
    obtain ⟨rest, hrest, h⟩ := bind_eq_ok.mp h
    refine .inl ⟨hin, rest, hrest, ?_⟩
    rw [← Except.ok.inj h]
    cases b.id with
    | none => rfl
    | some i => by_cases hi : i = "" <;> simp [Option.filter, hi]
  · rw [if_neg hin] at h
    exact .inr ⟨hin, h⟩

theorem mem_duplicatesAfter_cons {b : Bookmark} (h : duplicatesAfter seen (b :: bs) = .ok staged)
    (hid : id ∈ staged) : ∃ key, b.duplicateKey = .ok key ∧
      ((b.id = some id ∧ key ∈ seen) ∨ ∃ seen' rest, duplicatesAfter seen' bs = .ok rest ∧
        id ∈ rest ∧ ∀ k ∈ seen', k ∈ seen ∨ k = key) := by
  obtain ⟨key, hkey, ⟨hin, rest, hrest, rfl⟩ | ⟨-, hrest⟩⟩ := duplicatesAfter_cons h
  · refine ⟨key, hkey, ?_⟩
    rcases List.mem_append.mp hid with hid | hid
    · have hown := Option.mem_filter_iff.mp (Option.mem_toList.mp hid)
      exact .inl ⟨hown.1, hin⟩
    · exact .inr ⟨seen, rest, hrest, hid, fun k hk => .inl hk⟩
  · exact ⟨key, hkey, .inr ⟨key :: seen, staged, hrest, hid,
      fun k hk => (List.mem_cons.mp hk).symm⟩⟩

/-- A staged id is that of a bookmark whose key was seen before it. -/
theorem mem_duplicatesAfter (h : duplicatesAfter seen bs = .ok staged) (hid : id ∈ staged) :
    ∃ xs c zs key, bs = xs ++ c :: zs ∧ c.id = some id ∧ c.duplicateKey = .ok key ∧
      (key ∈ seen ∨ ∃ b ∈ xs, b.duplicateKey = .ok key) := by
  induction bs generalizing seen staged with
  | nil =>
    cases h
    cases hid
  | cons b bs ih =>
    obtain ⟨key, hkey, ⟨hb, hin⟩ | ⟨seen', rest, hrest, hmem, hseen⟩⟩ :=
      mem_duplicatesAfter_cons h hid
    · exact ⟨[], b, bs, key, rfl, hb, hkey, .inl hin⟩
    · obtain ⟨xs, c, zs, k, hbs, hc, hk, hbefore⟩ := ih hrest hmem
      refine ⟨b :: xs, c, zs, k, by rw [hbs]; rfl, hc, hk, ?_⟩
      rcases hbefore with hin | ⟨x, hx, hxk⟩
      · rcases hseen k hin with hin | rfl
        · exact .inl hin
        · exact .inr ⟨b, by simp, hkey⟩
      · exact .inr ⟨x, by simp [hx], hxk⟩

/-- Whoever is staged comes after one who stays: the first of the same title and address. -/
theorem duplicates_preceded (hn : Named bs) (h : duplicates bs = .ok staged) (hid : id ∈ staged) :
    Preceded staged bs id := by
  obtain ⟨xs, c, zs, key, hbs, hc, hk, hbefore⟩ := mem_duplicatesAfter h hid
  obtain ⟨x, hx, hxk⟩ := hbefore.resolve_left (by simp)
  have hfind : (xs.find? fun x => x.duplicateKey.toOption = some key).isSome := by
    rw [List.find?_isSome]
    exact ⟨x, hx, by simp [hxk, Except.toOption]⟩
  obtain ⟨b, hb⟩ := Option.isSome_iff_exists.mp hfind
  obtain ⟨hbk, before, after, hxs, hfirst⟩ := List.find?_eq_some_iff_append.mp hb
  have hbk := toOption_eq_some.mp (of_decide_eq_true hbk)
  have hsplit : bs = before ++ b :: (after ++ c :: zs) := by
    rw [hbs, hxs, List.append_assoc, List.cons_append]
  refine ⟨before, b, after, c, zs, key, hsplit, hc, hbk, hk, fun i hi hbi => ?_⟩
  obtain ⟨xs', c', zs', key', hbs', hc', hk', hbefore'⟩ := mem_duplicatesAfter h hi
  obtain ⟨y, hy, hyk⟩ := hbefore'.resolve_left (by simp)
  rw [hsplit] at hn hbs'
  obtain ⟨rfl, rfl⟩ := hn.split_unique hbs' (hbi.trans hc'.symm)
  -- the first bookmark of its key would have one of the same key before it
  rw [hbk, Except.ok.injEq] at hk'
  have := hfirst y hy
  simp [hyk, hk', Except.toOption] at this

section Remaining

/-- What is staged are ids of the bookmarks, in their order. -/
theorem duplicatesAfter_sublist (h : duplicatesAfter seen bs = .ok staged) :
    (staged.map some).Sublist (ids bs) := by
  induction bs generalizing seen staged with
  | nil =>
    cases h
    exact .refl _
  | cons b bs ih =>
    obtain ⟨key, -, ⟨-, rest, hrest, rfl⟩ | ⟨-, hrest⟩⟩ := duplicatesAfter_cons h
    · have hown : ((b.id.filter (· ≠ "")).toList.map some).Sublist [b.id] := by
        cases b.id with
        | none => exact List.nil_sublist _
        | some i => by_cases hi : i = "" <;> simp [hi]
      rw [List.map_append]
      exact hown.append (ih hrest)
    · exact (ih hrest).cons b.id

/-- Once the staged ones are gone, no two bookmarks have the same key, and none has one that was
seen before. -/
theorem duplicatesAfter_distinct (hn : Named bs) (h : duplicatesAfter seen bs = .ok staged) :
    ((bs.filter fun b => !staged.any (hasId · b)).map duplicateKey).Nodup ∧
      ∀ key ∈ seen, .ok key ∉ (bs.filter fun b => !staged.any (hasId · b)).map duplicateKey := by
  induction bs generalizing seen staged with
  | nil => simp
  | cons b bs ih =>
    have hbs : Named bs := hn.of_subperm (List.sublist_cons_self b bs).subperm
    obtain ⟨key, hkey, ⟨hin, rest, hrest, rfl⟩ | ⟨hnew, hrest⟩⟩ := duplicatesAfter_cons h
    · obtain ⟨id, hid, hne⟩ := hn.filled b (by simp)
      have hown : (b.id.filter (· ≠ "")).toList = [id] := by simp [hid, hne]
      have hothers : (b :: bs).filter (fun x => !hasId id x) = bs :=
        @Named.filter_other [] bs b id hn hid
      rw [hown, List.singleton_append, filter_gone_cons, hothers]
      exact ih hbs hrest
    · have hkept : staged.any (hasId · b) = false := by
        rw [List.any_eq_false]
        intro id hid hb
        have hlater := (duplicatesAfter_sublist hrest).subset (List.mem_map_of_mem hid)
        rw [← hasId_iff.mp hb] at hlater
        exact (List.nodup_cons.mp hn.distinct).1 hlater
      obtain ⟨hdistinct, hunseen⟩ := ih hbs hrest
      rw [List.filter_cons_of_pos (by simp [hkept]), List.map_cons, hkey]
      refine ⟨List.nodup_cons.mpr ⟨hunseen key (by simp), hdistinct⟩, fun k hk hmem => ?_⟩
      rcases List.mem_cons.mp hmem with heq | hmem
      · exact hnew (Except.ok.inj heq ▸ hk)
      · exact hunseen k (List.mem_cons_of_mem key hk) hmem

/-- Once the staged ones are gone, no two bookmarks have the same title and address. -/
theorem duplicates_distinct (hn : Named bs) (h : duplicates bs = .ok staged) :
    ((bs.filter fun b => !staged.any (hasId · b)).map duplicateKey).Nodup :=
  (duplicatesAfter_distinct hn h).1

theorem duplicates_nodup (hn : Named bs) (h : duplicates bs = .ok staged) : staged.Nodup :=
  ((duplicatesAfter_sublist h).nodup hn.distinct).of_map some

end Remaining

section Keys

variable {view cs ds : List Bookmark} {key : String × String}

/-- Whatever is in a view is in a collection under the same id, with the same title and address as
far as duplicates are told by them. -/
def Reflects (view bs : List Bookmark) : Prop :=
  ∀ b ∈ view, ∃ c ∈ bs, c.id = b.id ∧ c.duplicateKey = b.duplicateKey

theorem reflects_of_same (h : (contents bs).Perm (contents cs)) : Reflects bs cs := by
  intro b hb
  obtain ⟨c, hc, heq⟩ := exists_unplaced_eq h hb
  have hid : c.unplaced.id = b.unplaced.id := by rw [heq]
  have hkey : c.unplaced.duplicateKey = b.unplaced.duplicateKey := by rw [heq]
  exact ⟨c, hc, hid, hkey⟩

theorem Reflects.trans (h : Reflects bs cs) (h' : Reflects cs ds) : Reflects bs ds := by
  intro b hb
  obtain ⟨c, hc, hcid, hckey⟩ := h b hb
  obtain ⟨d, hd, hdid, hdkey⟩ := h' c hc
  exact ⟨d, hd, hdid.trans hcid, hdkey.trans hckey⟩

/-- What is staged is in the collection that the view shows. -/
theorem Reflects.there (h : Reflects view bs) (hview : duplicates view = .ok staged) :
    ∀ id ∈ staged, some id ∈ ids bs := by
  intro id hid
  have hmem := (duplicatesAfter_sublist hview).subset (List.mem_map_of_mem hid)
  obtain ⟨b, hb, hbid⟩ := List.mem_map.mp hmem
  obtain ⟨c, hc, hcid, -⟩ := h b hb
  exact List.mem_map.mpr ⟨c, hc, hcid.trans hbid⟩

/-- A key is that of one of some bookmarks. -/
def Occurs (key : String × String) (bs : List Bookmark) : Prop :=
  ∃ b ∈ bs, b.duplicateKey = .ok key

theorem Reflects.occurs (h : Reflects bs cs) (hkey : Occurs key bs) : Occurs key cs := by
  obtain ⟨b, hb, hbkey⟩ := hkey
  obtain ⟨c, hc, -, hckey⟩ := h b hb
  exact ⟨c, hc, hckey.trans hbkey⟩

theorem occurs_numbered : Occurs key (numbered bs) ↔ Occurs key bs := by
  have hsame := List.Perm.of_eq (contents_numbered bs)
  exact ⟨(reflects_of_same hsame).occurs, (reflects_of_same hsame.symm).occurs⟩

/-- No key goes with the staged ones: each of them comes, in the view, after one of the same key
that stays. -/
theorem occurs_remaining (hview : Named view) (h : duplicates view = .ok staged)
    (hreflects : Reflects view bs) (hbs : Named bs) :
    Occurs key (bs.filter fun b => !staged.any (hasId · b)) ↔ Occurs key bs := by
  constructor
  · rintro ⟨b, hb, hkey⟩
    exact ⟨b, (List.mem_filter.mp hb).1, hkey⟩
  · rintro ⟨b, hb, hkey⟩
    cases hstaged : staged.any (hasId · b) with
    | false => exact ⟨b, List.mem_filter.mpr ⟨hb, by simp [hstaged]⟩, hkey⟩
    | true =>
      obtain ⟨id, hid, hbid⟩ := List.any_eq_true.mp hstaged
      obtain ⟨xs, a, ys, c, zs, k, hsplit, hcid, hakey, hckey, hastays⟩ :=
        duplicates_preceded hview h hid
      obtain ⟨c', hc', hc'id, hc'key⟩ := hreflects c (by simp [hsplit])
      obtain ⟨a', ha', ha'id, ha'key⟩ := hreflects a (by simp [hsplit])
      -- the staged copy in the view is that of `b`, for an id stands for one bookmark
      have hfound := hbs.find?_eq hb (hasId_iff.mp hbid)
      rw [hbs.find?_eq hc' (hc'id.trans hcid), Option.some.injEq] at hfound
      subst hfound
      have hk : key = k := Except.ok.inj (hkey.symm.trans (hc'key.trans hckey))
      refine ⟨a', List.mem_filter.mpr ⟨ha', ?_⟩, by rw [ha'key, hakey, hk]⟩
      have hkept : staged.any (hasId · a') = false := by
        rw [List.any_eq_false]
        intro i hi hai
        exact hastays i hi (ha'id.symm.trans (hasId_iff.mp hai))
      simp [hkept]

end Keys

end LinkShelf.Bookmark

import LinkShelf.Proofs.Bookmark.Reread
import LinkShelf.Proofs.Json.Display
/-!
What reading a record can yield. Whatever the record was, a bookmark that was read from it is in
form and settled, so that writing it and reading it again changes nothing more.
-/
namespace LinkShelf.Bookmark

variable {b c : Bookmark} {ms : Members}

/-- What is left of any list of tags: each is trimmed, and they differ in more than case. -/
theorem clean_new (seen : List String) (vs : List Json) :
    (∀ t ∈ Tags.clean seen vs, Text.trim t = t ∧ t ≠ "" ∧ Text.lower t ∉ seen) ∧
      ((Tags.clean seen vs).map Text.lower).Nodup := by
  fun_induction Tags.clean seen vs with
  | case1 => simp
  | case2 seen vs ih => exact ih
  | case3 seen v vs hv s key hs ih => exact ih
  | case4 seen v vs hv s key hs ih =>
    rw [not_or] at hs
    obtain ⟨hall, hnodup⟩ := ih
    refine ⟨?_, List.nodup_cons.mpr ⟨?_, hnodup⟩⟩
    · intro t ht
      rcases List.mem_cons.mp ht with rfl | ht
      · exact ⟨Text.trim_trim _, hs⟩
      · obtain ⟨htrim, hne, hnew⟩ := hall t ht
        exact ⟨htrim, hne, fun hm => hnew (List.mem_cons_of_mem key hm)⟩
    · intro hm
      obtain ⟨t, ht, hkey⟩ := List.mem_map.mp hm
      exact (hall t ht).2.2 (List.mem_cons.mpr (.inl hkey))

theorem build_tags {rating status : Json} {ts : List String}
    (h : build b rating (.arr (ts.map .str)) status = .ok c)
    (hts : ∀ t ∈ ts, Text.blank t = false) : c.tags = ts := by
  unfold build at h
  obtain ⟨n, -, h⟩ := bind_eq_ok.mp h
  obtain ⟨vs, hvs, h⟩ := bind_eq_ok.mp h
  rw [orElse_arr] at hvs
  cases hvs
  cases h
  exact texts_map_str ts hts

/-- Read from a record, its times being texts if they are there. -/
structure Imported (b : Bookmark) : Prop where
  read : ∃ ms, ofRecord ms = .ok b
  createdAt : IsTime b.createdAt
  updatedAt : IsTime b.updatedAt

theorem orElse_null_ne (v : Json) : v.orElse .null ≠ .str "" := by
  unfold Json.orElse
  split
  · rintro rfl
    contradiction
  · exact Json.noConfusion

theorem trim_title (title url : String) :
    Text.trim (if Text.trim title = "" then Text.trim url else Text.trim title) =
      if Text.trim title = "" then Text.trim url else Text.trim title := by
  split <;> exact Text.trim_trim _

theorem ofRecord_times (h : ofRecord ms = .ok b) :
    b.createdAt = (ms.field .createdAt).orElse .null ∧
      b.updatedAt = (ms.field .updatedAt).orElse .null := by
  unfold ofRecord at h
  obtain ⟨tags, -, h⟩ := bind_eq_ok.mp h
  obtain ⟨-, n, ts, rfl⟩ := build_ok h
  exact ⟨rfl, rfl⟩

/-- Everything that writing and reading ask of a bookmark holds once it was read. -/
theorem ofRecord_ok (h : ofRecord ms = .ok b) (hc : IsTime b.createdAt) (hu : IsTime b.updatedAt) :
    Typed b ∧ b.formed = b ∧ b.id ≠ some "" ∧ Settled b := by
  unfold ofRecord at h
  obtain ⟨tags, htags, h⟩ := bind_eq_ok.mp h
  obtain ⟨vs, -, htags⟩ := bind_eq_ok.mp htags
  cases htags
  obtain ⟨hall, hdistinct⟩ := clean_new [] vs
  have hfilled : ∀ t ∈ Tags.clean [] vs, Text.blank t = false := by
    intro t ht
    obtain ⟨htrim, hne, -⟩ := hall t ht
    rw [Bool.eq_false_iff, ne_eq, ← Text.trim_eq_empty_iff, htrim]
    exact hne
  have hbuilt := build_tags h hfilled
  obtain ⟨hf, n, ts, rfl⟩ := build_ok h
  dsimp only at hbuilt
  subst hbuilt
  refine ⟨⟨⟨_, rfl⟩, ⟨_, rfl⟩, ⟨_, rfl⟩, ⟨_, rfl⟩, ⟨_, rfl⟩, ⟨_, rfl⟩, hc, hu, ?_⟩, hf, ?_, ?_⟩
  · dsimp only
    split
    · exact .inr ⟨_, rfl⟩
    · exact .inl rfl
  · dsimp only
    split
    · exact nofun
    · rename_i hset
      intro hid
      have hempty := Json.text_eq_empty (Option.some.inj hid)
      exact hset (by rw [hempty]; rfl)
  · refine ⟨?_, ?_, ?_, fun t ht => (hall t ht).1, hdistinct, orElse_null_ne _, orElse_null_ne _⟩
    · simp only [textOr_str, trim_title]
    · simp only [textOr_str, Text.trim_trim]
    · simp only [textOr_str]
      split
      · exact fun he => he
      · exact fun he => (‹¬_› he).elim

/-- A bookmark that was read is read again as it is. -/
theorem Imported.ofRecord_record (h : Imported b) : ofRecord b.record = .ok b := by
  obtain ⟨⟨ms, hms⟩, hc, hu⟩ := h
  obtain ⟨htyped, hf, hid, hsettled⟩ := ofRecord_ok hms hc hu
  rw [Bookmark.ofRecord_record htyped hf hid, (reread_eq_iff htyped hf).mpr hsettled]

theorem Imported.plain (h : Imported b) : b.toJson.plain = true := by
  obtain ⟨⟨ms, hms⟩, hc, hu⟩ := h
  exact plain_record (ofRecord_ok hms hc hu).1

end LinkShelf.Bookmark

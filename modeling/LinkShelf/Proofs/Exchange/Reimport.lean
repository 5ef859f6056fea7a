import LinkShelf.Exchange.Text
import LinkShelf.Proofs.Bookmark.Imported
/-!
Bookmarks that are written as JSON text and read again. What was read once comes back as it is, in
any layout, and so does what is read from it.
-/
namespace LinkShelf.Exchange

variable {bs : List Bookmark} {indent : Json.Indent}

theorem plain_records (h : ∀ b ∈ bs, b.toJson.plain = true) :
    (Json.arr (bs.map Bookmark.toJson)).plain = true := by
  rw [Json.plain]
  induction bs with
  | nil => rfl
  | cons b bs ih =>
    have hb := h b (by simp)
    have hbs := ih fun c hc => h c (by simp [hc])
    simp [Json.plainItems, hb, hbs]

theorem ofItems_records {f : Bookmark → Bookmark}
    (h : ∀ b ∈ bs, Bookmark.ofRecord b.record = .ok (f b)) :
    ofItems (bs.map Bookmark.toJson) = .ok (bs.map f) := by
  induction bs with
  | nil => rfl
  | cons b bs ih =>
    have hb := h b (by simp)
    have hbs := ih fun c hc => h c (by simp [hc])
    simp only [List.map_cons, Bookmark.toJson, ofItems, hb, bind, Except.bind]
    rw [hbs]
    rfl

/-- Each bookmark is read from its own record, whatever the layout. -/
theorem ofJsonText_toJsonText {f : Bookmark → Bookmark} (hplain : ∀ b ∈ bs, b.toJson.plain = true)
    (h : ∀ b ∈ bs, Bookmark.ofRecord b.record = .ok (f b)) :
    ofJsonText (toJsonText indent bs) = .ok (bs.map f) := by
  rw [ofJsonText, toJsonText, Json.parse_render (plain_records hplain)]
  exact ofItems_records h

theorem ofJsonText_imported (h : ∀ b ∈ bs, b.Imported) :
    ofJsonText (toJsonText indent bs) = .ok bs := by
  have hread : ofJsonText (toJsonText indent bs) = .ok (bs.map id) :=
    ofJsonText_toJsonText (fun b hb => (h b hb).plain) fun b hb => (h b hb).ofRecord_record
  rwa [List.map_id] at hread

/-- Whatever a text held, its bookmarks were read from records. -/
theorem ofItems_read {vs : List Json} (h : ofItems vs = .ok bs) :
    ∀ b ∈ bs, ∃ ms, Bookmark.ofRecord ms = .ok b := by
  induction vs generalizing bs with
  | nil =>
    cases h
    simp
  | cons v vs ih =>
    cases v with
    | obj ms =>
      obtain ⟨c, hc, h⟩ := bind_eq_ok.mp h
      obtain ⟨cs, hcs, h⟩ := bind_eq_ok.mp h
      cases h
      intro b hb
      rcases List.mem_cons.mp hb with rfl | hb
      · exact ⟨ms, hc⟩
      · exact ih hcs b hb
    | _ => exact ih h

theorem ofJsonText_read {text : String} (h : ofJsonText text = .ok bs) :
    ∀ b ∈ bs, ∃ ms, Bookmark.ofRecord ms = .ok b := by
  unfold ofJsonText at h
  split at h
  · cases h
  · exact ofItems_read h
  · cases h

section Loose

/-- A record with loose values: blanks around texts, tags that differ in case, a rating as text. -/
def looseRecord : Members :=
  [("title", .str " \"Lean\" \n"), ("url", .str "u"), ("tags", .str "a, A,\tb"),
    ("rating", .str "4"), ("created_at", .str "2024-01-01"), ("position", .int (-3))]

@[irreducible] def looseRead : Bookmark := (Bookmark.ofRecord looseRecord).toOption.getD {}

theorem looseRecord_read : Bookmark.ofRecord looseRecord = .ok looseRead := by
  have hok : (Bookmark.ofRecord looseRecord).isOk = true := by decide +kernel
  unfold looseRead
  cases hr : Bookmark.ofRecord looseRecord with
  | ok b => rfl
  | error e =>
    rw [hr] at hok
    cases hok

end Loose

end LinkShelf.Exchange

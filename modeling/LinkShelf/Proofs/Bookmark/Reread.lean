import LinkShelf.Proofs.Json.Roundtrip
import LinkShelf.Proofs.Number.Exact
import LinkShelf.Proofs.Store.Change
import LinkShelf.Proofs.Text.Trim
/-!
What becomes of a bookmark that is written as a record and read again. Reading trims title,
address and tags, takes the address for a missing title, drops tags that differ in case only and
takes an empty time for none; nothing else changes.
-/
namespace LinkShelf.Bookmark

variable {b : Bookmark} {n : Nat}

def IsText (v : Json) : Prop := ∃ s, v = .str s

def IsFlag (v : Json) : Prop := ∃ t, v = .bool t

def IsTime (v : Json) : Prop := v = .null ∨ ∃ s, v = .str s

def IsPlace (v : Json) : Prop := v = .null ∨ ∃ n, v = .int n

/-- Every field holds a value of the type it is declared with. -/
structure Typed (b : Bookmark) : Prop where
  title : IsText b.title
  url : IsText b.url
  description : IsText b.description
  folder : IsText b.folder
  favicon : IsText b.favicon
  unreachable : IsFlag b.unreachable
  createdAt : IsTime b.createdAt
  updatedAt : IsTime b.updatedAt
  position : IsPlace b.position

/-- A bookmark after it was written and read. -/
def reread (b : Bookmark) : Bookmark :=
  let url := Text.trim (textOr b.url)
  let title := Text.trim (textOr b.title)
  { b with
    title := .str (if title = "" then url else title)
    url := .str url
    tags := Tags.clean [] (b.tags.map .str)
    createdAt := b.createdAt.orElse .null
    updatedAt := b.updatedAt.orElse .null }

def written (b : Bookmark) : Field → Json
  | .id => (b.id.map Json.str).getD .null
  | .title => b.title
  | .url => b.url
  | .description => b.description
  | .tags => .arr (b.tags.map .str)
  | .rating => .int b.rating
  | .folder => b.folder
  | .favicon => b.favicon
  | .status => .str b.status.name
  | .unreachable => b.unreachable
  | .createdAt => b.createdAt.orElse (.str "")
  | .updatedAt => b.updatedAt.orElse (.str "")
  | .position => b.position

/-- An unset position is left out of the record. -/
def present (b : Bookmark) (f : Field) : Bool :=
  match f, b.position with
  | .position, .null => false
  | _, _ => true

theorem record_eq (hp : IsPlace b.position) :
    b.record = (Field.all.filter b.present).map fun f => (f.recordName, b.written f) := by
  unfold record
  rcases hp with hp | ⟨n, hp⟩ <;>
    simp [Field.all, List.filter_cons, present, written, hp, Field.recordName, Field.name]

theorem ofName?_recordName (f : Field) : Field.ofName? f.recordName = some f := by
  cases f <;> decide

theorem find?_all (b : Bookmark) (f : Field) :
    Field.all.reverse.find? (fun g => b.present g && decide (g = f)) =
      if b.present f then some f else none := by
  cases f with
  | position => cases h : b.present .position <;> simp [Field.all, h]
  | _ => simp [Field.all, present]

theorem field?_record (hp : IsPlace b.position) (f : Field) :
    Members.field? b.record f = if b.present f then some (b.written f) else none := by
  rw [record_eq hp]
  unfold Members.field?
  rw [← List.map_reverse, ← List.filter_reverse, List.find?_map, List.find?_filter, Option.map_map]
  simp only [Function.comp_def, ofName?_recordName, Option.some.injEq, Bool.decide_and,
    Bool.decide_eq_true, find?_all]
  split <;> rfl

theorem field_record (hp : IsPlace b.position) (f : Field) :
    Members.field b.record f = b.written f := by
  rw [Members.field, field?_record hp]
  cases f with
  | position => rcases hp with hp | ⟨n, hp⟩ <;> simp [present, written, hp]
  | _ => rfl

/-- The record of a bookmark can be written and read. -/
theorem plain_record (h : Typed b) : (Json.obj b.record).plain = true := by
  obtain ⟨⟨title, htitle⟩, ⟨url, hurl⟩, ⟨text, htext⟩, ⟨folder, hfolder⟩, ⟨icon, hicon⟩,
    ⟨gone, hgone⟩, hcreated, hupdated, hp⟩ := h
  have hid : ((b.id.map Json.str).getD .null).plain = true := by
    cases b.id <;> simp [Json.plain]
  have htags : ∀ ts : List String, Json.plainItems (ts.map .str) = true := by
    intro ts
    induction ts with
    | nil => rfl
    | cons t ts ih => simp [Json.plainItems, Json.plain, ih]
  have htime : ∀ v : Json, IsTime v → (v.orElse (.str "")).plain = true := by
    rintro v (rfl | ⟨s, rfl⟩)
    · rfl
    · unfold Json.orElse
      split <;> rfl
  rw [record_eq hp]
  rcases hp with hp | ⟨n, hp⟩ <;>
    simp [Field.all, List.filter_cons, present, written, Field.recordName, Field.name, Json.plain,
      Json.plainMembers, hid, htags, htime _ hcreated, htime _ hupdated, htitle, hurl, htext,
      hfolder, hicon, hgone, hp]

section Rating

theorem ofInt?_rating : ∀ n ≤ 5,
    Binary64.ofInt? (n : Nat) = some (.finite false (n * Binary64.oneUnits)) := by
  decide +kernel

theorem rating_units (h : n ≤ 5) :
    ∃ u, Binary64.ofInt? n = some (.finite false u) ∧ u / Binary64.oneUnits = n := by
  refine ⟨_, ofInt?_rating n h, ?_⟩
  -- a name for the number of units in one keeps the power from being computed
  generalize hone : Binary64.oneUnits = one
  have hpos : 0 < one := by
    rw [← hone]
    exact Binary64.oneUnits_pos
  exact Nat.mul_div_cancel n hpos

theorem clamp_units (u : Nat) :
    clamp (.finite false u) = .ok (min 5 (u / Binary64.oneUnits)) := by
  unfold clamp Json.realAsWhole
  generalize Binary64.oneUnits = one
  rfl

theorem wholeAsReal_ok {n : Int} {x : Binary64} (h : Binary64.ofInt? n = some x) :
    Json.wholeAsReal n = .ok x := by
  rw [Json.wholeAsReal, h]
  rfl

theorem clampRating_rating (h : n ≤ 5) : clampRating (.int n) = .ok n := by
  obtain ⟨u, hu, hdiv⟩ := rating_units h
  have hmin : min 5 n = n := by omega
  have hclamp : clamp (.finite false u) = .ok n := by
    rw [clamp_units, hdiv, hmin]
  refine bind_eq_ok.mpr ⟨.finite false u, ?_, hclamp⟩
  rw [ratingNumber, wholeAsReal_ok hu]

end Rating

section Tags

theorem clean_str (seen : List String) (t : String) (vs : List Json) :
    Tags.clean seen (.str t :: vs) =
      if Text.trim t = "" ∨ Text.lower (Text.trim t) ∈ seen then Tags.clean seen vs
      else Text.trim t :: Tags.clean (Text.lower (Text.trim t) :: seen) vs := rfl

theorem clean_not_blank (seen ts : List String) :
    ∀ t ∈ Tags.clean seen (ts.map .str), Text.blank t = false := by
  induction ts generalizing seen with
  | nil => simp [Tags.clean]
  | cons t ts ih =>
    rw [List.map_cons, clean_str]
    by_cases hs : Text.trim t = "" ∨ Text.lower (Text.trim t) ∈ seen
    · rw [if_pos hs]
      exact ih seen
    · rw [if_neg hs]
      intro x hx
      rcases List.mem_cons.mp hx with rfl | hx
      · cases hb : Text.blank (Text.trim t) with
        | false => rfl
        | true =>
          have hempty := Text.trim_eq_empty_iff.mpr hb
          rw [Text.trim_trim] at hempty
          exact (hs (.inl hempty)).elim
      · exact ih _ x hx

theorem texts_map_str (ts : List String) (h : ∀ t ∈ ts, Text.blank t = false) :
    Tags.texts (ts.map .str) = ts := by
  induction ts with
  | nil => rfl
  | cons t ts ih =>
    have ht := h t (by simp)
    have hrest := ih fun x hx => h x (by simp [hx])
    simp [Tags.texts, Json.text, ht, hrest]

theorem clean_length (seen ts : List String) :
    (Tags.clean seen (ts.map .str)).length ≤ ts.length := by
  induction ts generalizing seen with
  | nil => simp [Tags.clean]
  | cons t ts ih =>
    rw [List.map_cons, clean_str, List.length_cons]
    split
    · have := ih seen
      omega
    · have := ih (Text.lower (Text.trim t) :: seen)
      rw [List.length_cons]
      omega

/-- Cleaning keeps tags that are trimmed and differ in more than case, and no others. -/
theorem clean_eq_iff (seen ts : List String) :
    Tags.clean seen (ts.map .str) = ts ↔
      (∀ t ∈ ts, Text.trim t = t ∧ t ≠ "" ∧ Text.lower t ∉ seen) ∧ (ts.map Text.lower).Nodup := by
  induction ts generalizing seen with
  | nil => simp [Tags.clean]
  | cons t ts ih =>
    rw [List.map_cons, clean_str]
    by_cases hs : Text.trim t = "" ∨ Text.lower (Text.trim t) ∈ seen
    · rw [if_pos hs]
      constructor
      · intro h
        have := clean_length seen ts
        rw [h, List.length_cons] at this
        omega
      · rintro ⟨h, -⟩
        obtain ⟨htrim, hne, hnew⟩ := h t (by simp)
        rw [htrim] at hs
        exact (hs.elim hne hnew).elim
    · rw [if_neg hs, List.cons.injEq]
      rw [not_or] at hs
      constructor
      · rintro ⟨htrim, h⟩
        rw [htrim] at hs h
        obtain ⟨hall, hnodup⟩ := (ih _).mp h
        refine ⟨?_, List.nodup_cons.mpr ⟨?_, hnodup⟩⟩
        · intro x hx
          rcases List.mem_cons.mp hx with rfl | hx
          · exact ⟨htrim, hs⟩
          · obtain ⟨hxt, hxe, hxs⟩ := hall x hx
            exact ⟨hxt, hxe, fun hm => hxs (List.mem_cons_of_mem _ hm)⟩
        · intro hm
          obtain ⟨x, hx, hxl⟩ := List.mem_map.mp hm
          exact (hall x hx).2.2 (hxl ▸ List.mem_cons_self)
      · rintro ⟨hall, hnodup⟩
        obtain ⟨htrim, -, -⟩ := hall t (by simp)
        rw [List.map_cons, List.nodup_cons] at hnodup
        refine ⟨htrim, (ih _).mpr ⟨?_, hnodup.2⟩⟩
        intro x hx
        obtain ⟨hxt, hxe, hxs⟩ := hall x (by simp [hx])
        refine ⟨hxt, hxe, ?_⟩
        rw [htrim, List.mem_cons, not_or]
        exact ⟨fun he => hnodup.1 (he ▸ List.mem_map_of_mem hx), hxs⟩

end Tags

theorem ofJson_name (s : UrlStatus) : UrlStatus.ofJson (.str s.name) = s := by
  cases s <;> decide +kernel

@[simp] theorem textOr_str (s : String) : textOr (.str s) = s := by
  by_cases h : s = "" <;> simp [textOr, Json.orElse, Json.truthy, h, Json.text]

theorem orElse_name (s : UrlStatus) (v : Json) : (Json.str s.name).orElse v = .str s.name := by
  cases s <;> rfl

theorem orElse_time (v : Json) : (v.orElse (.str "")).orElse .null = v.orElse .null := by
  unfold Json.orElse
  cases h : v.truthy with
  | true => simp only [if_true, h]
  | false => rfl

theorem orElse_arr (vs : List Json) : (Json.arr vs).orElse (.arr []) = .arr vs := by
  cases vs <;> rfl

/-- A record is read as its bookmark, reread. -/
theorem ofRecord_record (h : Typed b) (hf : b.formed = b) (hid : b.id ≠ some "") :
    ofRecord b.record = .ok b.reread := by
  obtain ⟨⟨title, htitle⟩, ⟨url, hurl⟩, ⟨text, htext⟩, ⟨folder, hfolder⟩, ⟨icon, hicon⟩,
    ⟨gone, hgone⟩, -, -, hp⟩ := h
  have hrating : b.rating ≤ 5 := (formed_iff.mp hf).1
  have htags : Tags.distinct (.arr (b.tags.map .str)) = .ok (Tags.clean [] (b.tags.map .str)) := by
    rw [Tags.distinct, orElse_arr]
    rfl
  have hclean := texts_map_str _ (clean_not_blank [] b.tags)
  have hbuild : ∀ (c : Bookmark) (ts : List String),
      build c (.int b.rating) (.arr (ts.map .str)) (.str b.status.name) =
        .ok { c with rating := b.rating, tags := Tags.texts (ts.map .str), status := b.status } := by
    intro c ts
    rw [build, orElse_arr, clampRating_rating hrating, ofJson_name]
    rfl
  have hgiven : (if ((b.id.map Json.str).getD .null).isUnset then none
      else some ((b.id.map Json.str).getD .null).text) = b.id := by
    cases hi : b.id with
    | none => rfl
    | some id =>
      have hne : id ≠ "" := fun he => hid (by rw [hi, he])
      simp [Json.isUnset, Json.text, hne]
  unfold ofRecord
  simp only [field_record hp, field?_record hp, present, written, if_true, Option.getD_some,
    orElse_arr, htags, bind, Except.bind, orElse_name, hbuild, hclean, orElse_time, hgiven]
  rcases hp with hp | ⟨n, hp⟩ <;> simp [reread, hp, htext, hfolder, hicon, hgone, Json.truthy]

/-- What reading leaves as it is. -/
structure Settled (b : Bookmark) : Prop where
  title : Text.trim (textOr b.title) = textOr b.title
  url : Text.trim (textOr b.url) = textOr b.url
  titled : textOr b.title = "" → textOr b.url = ""
  tags : ∀ t ∈ b.tags, Text.trim t = t
  distinct : (b.tags.map Text.lower).Nodup
  createdAt : b.createdAt ≠ .str ""
  updatedAt : b.updatedAt ≠ .str ""

theorem orElse_null_iff {v : Json} (h : IsTime v) : v.orElse .null = v ↔ v ≠ .str "" := by
  rcases h with rfl | ⟨s, rfl⟩
  · simp [Json.orElse, Json.truthy]
  · by_cases hs : s = "" <;> simp [Json.orElse, Json.truthy, hs]

theorem title_eq_iff {title url : String} (hurl : Text.trim url = url) :
    (if Text.trim title = "" then Text.trim url else Text.trim title) = title ↔
      Text.trim title = title ∧ (title = "" → url = "") := by
  rw [hurl]
  by_cases h : Text.trim title = ""
  · rw [if_pos h, h]
    constructor
    · rintro rfl
      rw [hurl] at h
      exact ⟨h.symm, fun hu => hu⟩
    · rintro ⟨rfl, hu⟩
      exact hu rfl
  · rw [if_neg h]
    constructor
    · intro ht
      exact ⟨ht, fun he => (h (ht.trans he)).elim⟩
    · exact And.left

/-- Being written and read changes a bookmark just when something in it is not settled. -/
theorem reread_eq_iff (h : Typed b) (hf : b.formed = b) : b.reread = b ↔ Settled b := by
  obtain ⟨⟨title, htitle⟩, ⟨url, hurl⟩, -, -, -, -, hcreated, hupdated, -⟩ := h
  have hfilled : ∀ t ∈ b.tags, t ≠ "" := by
    rintro t ht rfl
    have := (formed_iff.mp hf).2 "" ht
    simp [Text.blank] at this
  have hparts : b.reread = b ↔
      (if Text.trim title = "" then Text.trim url else Text.trim title) = title ∧
      Text.trim url = url ∧ Tags.clean [] (b.tags.map .str) = b.tags ∧
      b.createdAt.orElse .null = b.createdAt ∧ b.updatedAt.orElse .null = b.updatedAt := by
    cases b
    simp only at htitle hurl
    subst htitle hurl
    simp only [reread, textOr_str, mk.injEq, Json.str.injEq, true_and, and_true]
  rw [hparts, orElse_null_iff hcreated, orElse_null_iff hupdated, clean_eq_iff]
  constructor
  · rintro ⟨ht, hu, ⟨htags, hdistinct⟩, hc, hup⟩
    obtain ⟨ht, htitled⟩ := (title_eq_iff hu).mp ht
    refine ⟨?_, ?_, ?_, fun t hm => (htags t hm).1, hdistinct, hc, hup⟩
    · rw [htitle, textOr_str, ht]
    · rw [hurl, textOr_str, hu]
    · rw [htitle, hurl, textOr_str, textOr_str]
      exact htitled
  · rintro ⟨ht, hu, htitled, htags, hdistinct, hc, hup⟩
    rw [htitle, textOr_str] at ht htitled
    rw [hurl, textOr_str] at hu htitled
    exact ⟨(title_eq_iff hu).mpr ⟨ht, htitled⟩, hu,
      ⟨fun t hm => ⟨htags t hm, hfilled t hm, by simp⟩, hdistinct⟩, hc, hup⟩

section Typed

/-- A patch that gives each field it names a value of the declared type. -/
def TypedPatch (ms : Members) : Prop := Typed (set {} ms)

theorem typed_getD {v : Option Json} {w x : Json} {p : Json → Prop} (hv : p (v.getD w))
    (hx : p x) : p (v.getD x) := by
  cases v with
  | none => exact hx
  | some v => exact hv

theorem Typed.set {ms : Members} (h : Typed b) (hms : TypedPatch ms) : Typed (b.set ms) :=
  ⟨typed_getD hms.title h.title, typed_getD hms.url h.url,
    typed_getD hms.description h.description, typed_getD hms.folder h.folder,
    typed_getD hms.favicon h.favicon, typed_getD hms.unreachable h.unreachable,
    typed_getD hms.createdAt h.createdAt, typed_getD hms.updatedAt h.updatedAt,
    typed_getD hms.position h.position⟩

theorem Typed.patch {c : Bookmark} {ms : Members} (h : Typed b) (hms : TypedPatch ms)
    (hc : b.patch ms = .ok c) : Typed c := by
  unfold Bookmark.patch at hc
  obtain ⟨tags, -, hc⟩ := bind_eq_ok.mp hc
  obtain ⟨-, n, ts, rfl⟩ := build_ok hc
  exact { h.set hms with }

theorem Typed.formed (h : Typed b) : Typed b.formed := { h with }

theorem Typed.underId (h : Typed b) (id : String) : Typed (b.underId id) := { h with }

theorem Typed.updated (h : Typed b) (now : String) : Typed { b with updatedAt := .str now } :=
  { h with updatedAt := .inr ⟨now, rfl⟩ }

theorem Typed.placed (h : Typed b) (i : Nat) : Typed { b with position := .int i } :=
  { h with position := .inr ⟨i, rfl⟩ }

theorem IsTime.orElse {v w : Json} (hv : IsTime v) (hw : IsTime w) : IsTime (v.orElse w) := by
  unfold Json.orElse
  split
  · exact hv
  · exact hw

theorem Typed.created (h : Typed b) (now : String) :
    Typed { b with createdAt := b.createdAt.orElse (.str now) } :=
  { h with createdAt := h.createdAt.orElse (.inr ⟨now, rfl⟩) }

end Typed

end LinkShelf.Bookmark

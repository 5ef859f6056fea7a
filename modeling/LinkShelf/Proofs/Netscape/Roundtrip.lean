import LinkShelf.Proofs.Netscape.Written
/-!
Reading what was written. Every bookmark with an address comes back once, with all that a bookmark
file has a place for, whatever characters its fields hold.
-/
namespace LinkShelf.Netscape

open Html Bookmark

variable {bs : List Bookmark} {b r : Bookmark} {now text : String}

/-- A whole second of the years 1 to 9999 other than the first of 1970 stays the same. -/
def SameMoment (v w : Json) : Prop :=
  ∀ n : Int, n ≠ 0 → Instant.firstSecond ≤ n → n < Instant.endSecond →
    instantOf? v = some ⟨n * 1000000⟩ → instantOf? w = some ⟨n * 1000000⟩

/-- What a bookmark file keeps of a bookmark. -/
structure Carried (b r : Bookmark) : Prop where
  url : r.url = .str (Text.trim (textOr b.url))
  title : ∃ title, b.effectiveTitle = .ok title ∧ r.title = .str title
  description : r.description = b.description
  favicon : r.favicon = b.favicon
  folder : r.folder = .str (Text.trim (textOr b.folder))
  tags : Tags.distinct (Tags.ofText (",".intercalate b.tags)) = .ok r.tags
  createdAt : SameMoment b.createdAt r.createdAt
  updatedAt : SameMoment b.updatedAt r.updatedAt

section Fields

theorem str_textOr {v : Json} (h : IsText v) : .str (textOr v) = v := by
  obtain ⟨s, rfl⟩ := h
  rw [textOr_str]

theorem trimmed_text {v : Json} (h : IsText v) : trimmed v = .ok (Text.trim (textOr v)) := by
  obtain ⟨s, rfl⟩ := h
  rw [textOr_str, trimmed]
  by_cases hs : s = ""
  · subst hs
    rfl
  · simp [Json.truthy, hs]

/-- The title, and the address where there is none. -/
def titleOr (b : Bookmark) : String :=
  if Text.trim (textOr b.title) = "" then Text.trim (textOr b.url) else Text.trim (textOr b.title)

theorem effectiveTitle_text (h : Textual b) : b.effectiveTitle = .ok (titleOr b) := by
  rw [effectiveTitle, trimmed_text h.title, trimmed_text h.url, titleOr]
  simp only [bind, Except.bind]
  split <;> rfl

theorem trim_entry (h : Textual b) :
    Text.trim (entry b).title =
      if textOr b.title = "" then Text.trim (textOr b.url) else Text.trim (textOr b.title) := by
  obtain ⟨s, hs⟩ := h.title
  rw [entry, hs, Json.orElse, textOr_str]
  by_cases hempty : s = "" <;> simp [hempty, Json.truthy]

/-- A blank title is written all the same, and read as none. -/
theorem shown_title (h : Textual b) (folder : String) :
    (if Text.trim ((entry b).link folder).text = "" then Text.trim (textOr b.url)
      else Text.trim ((entry b).link folder).text) = titleOr b := by
  have hnone : Text.trim "" = "" := by decide
  rw [Entry.link, trim_leaf, trim_entry h, titleOr]
  by_cases hempty : textOr b.title = ""
  · rw [if_pos hempty, hempty, hnone, if_pos rfl, ite_self]
  · rw [if_neg hempty]

/-- The time that is read from the seconds of another. -/
def timeAgain (now : String) (v : Json) : Json := .str ((timeText? (stamp v)).getD now)

theorem sameMoment_timeAgain (now : String) (v : Json) : SameMoment v (timeAgain now v) := by
  intro n hn hlow hhigh hv
  obtain ⟨text, htext, hread⟩ := timeText?_intText hlow hhigh
  have hstamp : stamp v = Json.intText n := by
    rw [stamp, seconds_whole hv hn hlow hhigh, Except.toOption, Option.getD_some]
  rw [timeAgain, hstamp, htext, Option.getD_some]
  exact hread

theorem distinct_ofText (s : String) :
    Tags.distinct (Tags.ofText s) = .ok (Tags.clean [] ((Text.split s ',').map .str)) := by
  have hlist (vs : List Json) : ((Json.arr vs).orElse (.arr [])).elements = .ok vs := by
    cases vs <;> rfl
  rw [Tags.distinct, Tags.ofText, hlist]
  rfl

/-- The bookmark that comes back. -/
def returned (now : String) (b : Bookmark) : Bookmark where
  title := .str (titleOr b)
  url := .str (Text.trim (textOr b.url))
  description := .str (textOr b.description)
  tags := Tags.clean [] ((Text.split (",".intercalate b.tags) ',').map .str)
  folder := .str (Text.trim (textOr b.folder))
  favicon := .str (textOr b.favicon)
  createdAt := timeAgain now b.createdAt
  updatedAt := timeAgain now b.updatedAt

/-- The link of an entry is read as a bookmark if it has an address. -/
theorem bookmark?_entry (h : Textual b) (hurl : Text.blank (textOr b.url) = false) (now : String) :
    bookmark? now ((entry b).link (Text.trim (textOr b.folder))) = some (returned now b) := by
  obtain ⟨hhref, hadded, hmodified, hicon, hdescription, htags⟩ := get?_attributesOf b
  have haddress : Text.trim (textOr b.url) ≠ "" := by
    rw [Ne, Text.trim_eq_empty_iff, hurl]
    exact Bool.false_ne_true
  have hattributes (folder : String) :
      ((entry b).link folder).attributes = (attributesOf b).lowered := rfl
  have hfolder (folder : String) : ((entry b).link folder).folder = folder := rfl
  rw [bookmark?]
  simp only [hattributes, hfolder, hhref, hadded, hmodified, hicon, hdescription, htags,
    Option.getD_some, haddress, if_false, shown_title h]
  rfl

theorem carried_returned (h : Textual b) (now : String) : Carried b (returned now b) where
  url := rfl
  title := ⟨_, effectiveTitle_text h, rfl⟩
  description := str_textOr h.description
  favicon := str_textOr h.favicon
  folder := rfl
  tags := distinct_ofText (",".intercalate b.tags)
  createdAt := sameMoment_timeAgain now b.createdAt
  updatedAt := sameMoment_timeAgain now b.updatedAt

end Fields

section Document

theorem startsLike_append {ps cs : List Char} (h : startsLike ps cs = true) (rest : List Char) :
    startsLike ps (cs ++ rest) = true := by
  fun_induction startsLike ps cs with
  | case1 => rfl
  | case2 => cases h
  | case3 p ps c cs ih =>
    rw [Bool.and_eq_true] at h
    rw [List.cons_append, startsLike, h.1, ih h.2]
    rfl

theorem declaresAt_doctype (rest : List Char) :
    declaresAt ("<!DOCTYPE".toList ++ ' ' :: ("NETSCAPE-Bookmark-file-1>".toList ++ rest)) =
      true := by
  have hstart : startsLike "<!doctype".toList "<!DOCTYPE".toList = true := by decide +kernel
  have hname : startsLike "netscape-bookmark-file-1>".toList
      "NETSCAPE-Bookmark-file-1>".toList = true := by decide +kernel
  have hblank : Text.isBlank ' ' = true ∧ Text.isBlank 'N' = false := by decide
  have hbegins : ("NETSCAPE-Bookmark-file-1>".toList ++ rest).dropWhile Text.isBlank =
      "NETSCAPE-Bookmark-file-1>".toList ++ rest :=
    List.dropWhile_cons_of_neg (a := 'N') (by simp [hblank])
  have hlength : "<!DOCTYPE".toList.length = 9 := by decide
  rw [declaresAt, startsLike_append hstart, List.drop_left' hlength, Bool.true_and]
  simp only [hblank, hbegins, startsLike_append hname, Bool.and_self]

/-- A text that begins with the declaration is a bookmark file, whatever comes after it. -/
theorem declares_doctype (rest : List Char) : declares (doctype.written ++ rest) = true := by
  have hhere := declaresAt_doctype rest
  have hwritten : doctype.written ++ rest =
      "<!DOCTYPE".toList ++ ' ' :: ("NETSCAPE-Bookmark-file-1>".toList ++ rest) := rfl
  rw [hwritten]
  exact Bool.or_eq_true_iff.mpr (.inl hhere)

theorem read_document {title : String} {top : List Entry} {folders : List (String × List Entry)}
    (h : Spells text (ofLines (documentLines title top folders))) (now : String) :
    read now text = .ok ((top.map (Entry.link "") ++
      folders.flatMap fun f => f.2.map (Entry.link (Text.trim f.1))).filterMap
        (bookmark? now)) := by
  obtain ⟨ts, htokens, hcut⟩ := tokens_writing (ofLines (documentLines title top folders))
  have hdeclares : declares text.toList = true := by
    rw [h]
    exact declares_doctype _
  rw [← h] at htokens
  rw [read, htokens]
  simp only [hdeclares, Bool.true_or, if_true, hcut.nodes, linksIn_document]

end Document

/-- The links of the document are the bookmarks in their new order, each in its folder. -/
theorem links_regrouped (bs : List Bookmark) :
    ((inFolder bs "").map entry).map (Entry.link "") ++
      ((labels bs).map fun l => (l, (inFolder bs l).map entry)).flatMap
        (fun f => f.2.map (Entry.link (Text.trim f.1))) =
      (regrouped bs).map fun b => (entry b).link (Text.trim (textOr b.folder)) := by
  have hnone : Text.trim "" = "" := by decide
  have hfolder (l : String) : ((inFolder bs l).map entry).map (Entry.link (Text.trim l)) =
      (inFolder bs l).map fun b => (entry b).link (Text.trim (textOr b.folder)) := by
    rw [List.map_map]
    refine List.map_congr_left fun b hb => ?_
    rw [of_decide_eq_true (List.mem_filter.mp hb).2]
    rfl
  have htop := hfolder ""
  rw [hnone] at htop
  rw [regrouped, List.map_append, List.map_flatMap, List.flatMap_map, htop]
  simp only [hfolder]

theorem filterMap_links (now : String)
    (h : ∀ b ∈ bs, Textual b ∧ Text.blank (textOr b.url) = false) :
    (bs.map fun b => (entry b).link (Text.trim (textOr b.folder))).filterMap (bookmark? now) =
      bs.map (returned now) := by
  induction bs with
  | nil => rfl
  | cons b bs ih =>
    obtain ⟨htextual, hurl⟩ := h b (by simp)
    rw [List.map_cons, List.filterMap_cons_some (bookmark?_entry htextual hurl now),
      ih fun c hc => h c (by simp [hc]), List.map_cons]

/-- Reading what was written yields each bookmark once, those without a folder first and the
others folder by folder, with all that the file has a place for. -/
theorem read_write (title now : String) (bs : List Bookmark)
    (h : ∀ b ∈ bs, Textual b ∧ Text.blank (textOr b.url) = false) :
    ∃ text rs, write title bs = .ok text ∧ read now text = .ok rs ∧
      (regrouped bs).Perm bs ∧ List.Forall₂ Carried (regrouped bs) rs := by
  obtain ⟨text, hwrite, hspells⟩ := write_spells title fun b hb => (h b hb).1
  refine ⟨text, _, hwrite, read_document hspells now, perm_regrouped bs, ?_⟩
  have hall : ∀ b ∈ regrouped bs, Textual b ∧ Text.blank (textOr b.url) = false := fun b hb =>
    h b ((perm_regrouped bs).mem_iff.mp hb)
  rw [links_regrouped, filterMap_links now hall, List.forall₂_map_right_iff, List.forall₂_same]
  exact fun b hb => carried_returned (hall b hb).1 now

/-- Two folders and none, with characters that mean something in markup. -/
def assorted : List Bookmark :=
  [{ title := .str "Tea & \"scones\"", url := .str " https://tea.example/?a=1&amp;b=2 ",
     description := .str "it's &lt;b&gt;", tags := ["Tea", "hot,cold", "tea"],
     folder := .str " Food & <Drink> ", createdAt := .str "2024-02-29T12:00:00+02:00" },
    { url := .str "https://plain.example/" },
    { title := .str " ", url := .str "https://work.example/", folder := .str "Work",
      favicon := .str "data:'x'" },
    { title := .str "Coffee", url := .str "https://coffee.example/",
      folder := .str " Food & <Drink> ", updatedAt := .str "1969-12-31T23:59:59Z" }]

theorem textual_assorted :
    ∀ b ∈ assorted, Textual b ∧ Text.blank (textOr b.url) = false := by
  simp only [assorted, List.forall_mem_cons]
  refine ⟨⟨?_, by decide⟩, ⟨?_, by decide⟩, ⟨?_, by decide⟩, ⟨?_, by decide⟩, nofun⟩
  all_goals
    constructor <;> first | exact ⟨_, rfl⟩ | exact .inl rfl | exact .inr ⟨_, rfl⟩

theorem read_write_assorted :
    (∀ b ∈ assorted, Textual b ∧ Text.blank (textOr b.url) = false) ∧
    ∃ text rs, write "Mine" assorted = .ok text ∧ read "" text = .ok rs ∧
      (regrouped assorted).Perm assorted ∧ List.Forall₂ Carried (regrouped assorted) rs :=
  ⟨textual_assorted, read_write "Mine" "" assorted textual_assorted⟩

end LinkShelf.Netscape

import LinkShelf.Proofs.Bookmark.Moment
import LinkShelf.Proofs.Netscape.Document
import LinkShelf.Proofs.Netscape.Grouped
import Mathlib.Data.List.Forall2
/-!
What is written is a bookmark file: each bookmark becomes an entry, with its fields as attributes,
and the text that is put together line by line is that of the document of these entries.
-/
namespace LinkShelf.Netscape

open Html Bookmark

variable {b : Bookmark}

/-- Every field that is written is a text; a time may be missing. -/
structure Textual (b : Bookmark) : Prop where
  title : IsText b.title
  url : IsText b.url
  description : IsText b.description
  folder : IsText b.folder
  favicon : IsText b.favicon
  createdAt : IsTime b.createdAt
  updatedAt : IsTime b.updatedAt

section Fields

/-- An attribute that is left out where it has nothing to say. -/
def given (name value : String) : Attributes := if value = "" then [] else [(name, value)]

/-- The seconds of a time field as they are written. -/
def stamp (v : Json) : String := (seconds v).toOption.getD ""

/-- The fields of a bookmark under the given names. -/
def fields (b : Bookmark) (href added modified icon description tags : String) : Attributes :=
  (href, textOr b.url) :: (added, stamp b.createdAt) :: (modified, stamp b.updatedAt) ::
    (given icon (textOr b.favicon) ++ (given description (textOr b.description) ++
      given tags (",".intercalate b.tags)))

def attributesOf (b : Bookmark) : Attributes :=
  fields b "HREF" "ADD_DATE" "LAST_MODIFIED" "ICON" "DESCRIPTION" "TAGS"

theorem lowered_given (name value : String) :
    (given name value).lowered = given (Text.lower name) value := by
  unfold given
  split <;> rfl

/-- The attributes as they are read. -/
theorem lowered_attributesOf (b : Bookmark) : (attributesOf b).lowered =
    fields b "href" "add_date" "last_modified" "icon" "description" "tags" := by
  have hnames : Text.lower "HREF" = "href" ∧ Text.lower "ADD_DATE" = "add_date" ∧
      Text.lower "LAST_MODIFIED" = "last_modified" ∧ Text.lower "ICON" = "icon" ∧
      Text.lower "DESCRIPTION" = "description" ∧ Text.lower "TAGS" = "tags" := by
    decide +kernel
  have hgiven := lowered_given
  unfold Attributes.lowered at hgiven ⊢
  simp [attributesOf, fields, hnames, hgiven]

theorem mem_given {name value : String} {a : String × String} (h : a ∈ given name value) :
    a.1 = name := by
  unfold given at h
  split at h
  · cases h
  · rw [List.mem_singleton.mp h]

theorem named_attributesOf (b : Bookmark) : ∀ a ∈ attributesOf b, IsName a.1 := by
  intro a ha
  have hname : a.1 ∈ ["HREF", "ADD_DATE", "LAST_MODIFIED", "ICON", "DESCRIPTION", "TAGS"] := by
    simp only [attributesOf, fields, List.mem_cons, List.mem_append] at ha
    rcases ha with rfl | rfl | rfl | ha | ha | ha
    · simp
    · simp
    · simp
    all_goals simp [mem_given ha]
  revert hname
  generalize a.1 = name
  revert name
  decide

end Fields

section Lookup

/-- Of several attributes of one name the last one counts. -/
theorem get?_cons (a : String × String) (as : Attributes) (name : String) :
    Attributes.get? (a :: as) name =
      (as.get? name).or (if name = a.1 then some a.2 else none) := by
  rw [Attributes.get?, List.reverse_cons, List.lookup_append, Attributes.get?]
  congr 1
  rw [List.lookup_cons, List.lookup_nil]
  cases h : name == a.1 <;> simp_all

theorem get?_append (as bs : Attributes) (name : String) :
    Attributes.get? (as ++ bs) name = (bs.get? name).or (as.get? name) := by
  simp [Attributes.get?, List.lookup_append]

theorem get?_given (key value name : String) :
    (given key value).get? name = if name = key ∧ value ≠ "" then some value else none := by
  unfold given
  by_cases hvalue : value = ""
  · simp [hvalue, Attributes.get?]
  · rw [if_neg hvalue, get?_cons]
    simp [Attributes.get?, hvalue]

/-- What the attributes of a bookmark say, whether they are there or not. -/
theorem get?_attributesOf (b : Bookmark) :
    (attributesOf b).lowered.get? "href" = some (textOr b.url) ∧
    (attributesOf b).lowered.get? "add_date" = some (stamp b.createdAt) ∧
    (attributesOf b).lowered.get? "last_modified" = some (stamp b.updatedAt) ∧
    ((attributesOf b).lowered.get? "icon").getD "" = textOr b.favicon ∧
    ((attributesOf b).lowered.get? "description").getD "" = textOr b.description ∧
    ((attributesOf b).lowered.get? "tags").getD "" = ",".intercalate b.tags := by
  have hempty (v : String) : (if v = "" then none else some v).getD "" = v := by
    by_cases hv : v = "" <;> simp [hv]
  rw [lowered_attributesOf]
  simp [fields, get?_cons, get?_append, get?_given, hempty]

end Lookup

/-- The entry of a bookmark. Without a title it shows the address. -/
def entry (b : Bookmark) : Entry where
  attributes := attributesOf b
  title := textOr (b.title.orElse b.url)
  named := named_attributesOf b
  addressed := by rw [(get?_attributesOf b).1]; rfl

section Spelling

/-- A text is the written form of some markup. -/
def Spells (s : String) (as : List Atom) : Prop := s.toList = writing as

variable {s t : String} {as bs : List Atom}

theorem Spells.append (h : Spells s as) (h' : Spells t bs) : Spells (s ++ t) (as ++ bs) := by
  rw [Spells, String.toList_append, h, h', writing, writing, writing, List.flatMap_append]

theorem spells_escape (s : String) : Spells (escape s) (Atom.ofText s) := by
  rw [Spells, writing_ofText, escape, String.toList_ofList]

theorem spells_plain (h : s.toList.all (!isSpecial ·) = true) : Spells s (Atom.ofText s) := by
  have hplain : ∀ c ∈ s.toList, isSpecial c = false := fun c hc => by
    simpa using List.all_eq_true.mp h c hc
  rw [Spells, writing_ofText, escapeChars_plain hplain]

theorem spells_mark {m : Mark} (h : s.toList = m.written) : Spells s [.mark m] := by
  rw [Spells, h, writing, List.flatMap_singleton, Atom.written]

/-- Lines that are each followed by a line break. -/
theorem spells_lines {texts : List String} {lines : List (List Atom)}
    (h : List.Forall₂ Spells texts lines) (hne : texts ≠ []) :
    Spells ("\n".intercalate texts ++ "\n") (ofLines lines) := by
  have hbreak : Spells "\n" (Atom.ofText "\n") := spells_plain (by decide)
  induction h with
  | nil => exact (hne rfl).elim
  | cons hline hlines ih =>
    rename_i text line texts lines
    cases texts with
    | nil =>
      cases hlines
      simpa [ofLines_cons] using hline.append hbreak
    | cons next texts =>
      rw [String.intercalate_cons_cons, ofLines_cons, String.append_assoc, String.append_assoc]
      exact hline.append (hbreak.append (ih (List.cons_ne_nil _ _)))

end Spelling

section Line

theorem escaped_text {v : Json} (h : IsText v) : escaped v = .ok (escape (textOr v)) := by
  obtain ⟨s, rfl⟩ := h
  rw [textOr_str, escaped]
  by_cases hs : s = ""
  · subst hs
    rfl
  · simp [Json.truthy, hs]

theorem seconds_stamp {v : Json} (h : IsTime v) : seconds v = .ok (escape (stamp v)) := by
  obtain ⟨text, hseconds, htext⟩ := seconds_ok h
  have hstamp : stamp v = text := by rw [stamp, hseconds]; rfl
  have hplain : escape text = text := by
    rcases htext with rfl | ⟨n, rfl⟩
    · rfl
    · rw [escape, escapeChars_plain, String.ofList_toList]
      intro c hc
      rcases Numeral.isWholeChar_intText n c hc with hdigit | rfl
      · rw [Bool.eq_false_iff]
        intro hspecial
        rcases isSpecial_cases hspecial with rfl | rfl | rfl | rfl | rfl <;> cases hdigit
      · rfl
  rw [hstamp, hplain, hseconds]

def attributePair (a : String × String) : String := pair a.1 (escape a.2)

theorem optional_given (name value : String) :
    optional name (escape value) = (given name value).map attributePair := by
  simp only [optional, given, escape_eq_empty_iff]
  split <;> rfl

theorem toList_attributePair (a : String × String) :
    ' ' :: (attributePair a).toList = attributeText a := by
  simp [attributePair, pair, attributeText, escape]

theorem toList_pairs (a : String × String) (as : Attributes) :
    ' ' :: (" ".intercalate ((a :: as).map attributePair)).toList =
      (a :: as).flatMap attributeText := by
  induction as generalizing a with
  | nil => simp [toList_attributePair]
  | cons b as ih =>
    have hrest := ih b
    simp only [List.map_cons] at hrest ⊢
    rw [String.intercalate_cons_cons, List.flatMap_cons, ← hrest, ← toList_attributePair]
    simp

theorem spells_textElement {name s : String} {as : Attributes} {hname : IsName name}
    {h : ∀ a ∈ as, IsName a.1} {hraw : isRaw (Text.lower name) = false} {start stop : String}
    (hstart : start.toList = openingText name as) (hstop : stop.toList = closingText name) :
    Spells (start ++ (escape s ++ stop)) (textElement name s as hname h hraw) :=
  (spells_mark (m := .opening name as hname h hraw) hstart).append
    ((spells_escape s).append (spells_mark (m := .closing name hname) hstop))

/-- The start of the link, with its attributes. -/
def linkStart (b : Bookmark) : String :=
  "<A " ++ " ".intercalate ((attributesOf b).map attributePair) ++ ">"

def lineText (b : Bookmark) : String :=
  "<DT>" ++ (linkStart b ++ (escape (entry b).title ++ "</A>"))

theorem line_eq (h : Textual b) : line b = .ok (lineText b) := by
  have htitle : IsText (b.title.orElse b.url) := by
    rw [Json.orElse]
    split
    · exact h.title
    · exact h.url
  have hpairs : [pair "HREF" (escape (textOr b.url)), pair "ADD_DATE" (escape (stamp b.createdAt)),
      pair "LAST_MODIFIED" (escape (stamp b.updatedAt))] ++
      optional "ICON" (escape (textOr b.favicon)) ++
      optional "DESCRIPTION" (escape (textOr b.description)) ++
      optional "TAGS" (escape (",".intercalate b.tags)) = (attributesOf b).map attributePair := by
    simp [attributesOf, fields, optional_given, attributePair]
  simp only [line, bind, Except.bind, escaped_text, h.url, h.favicon, h.description, htitle,
    seconds_stamp, h.createdAt, h.updatedAt, hpairs, pure, Except.pure]
  simp only [lineText, linkStart, entry, ← String.append_assoc]
  rfl

theorem toList_linkStart (b : Bookmark) :
    (linkStart b).toList = openingText "A" (attributesOf b) := by
  have hattributes : attributesOf b ≠ [] := List.cons_ne_nil _ _
  obtain ⟨a, as, has⟩ := List.exists_cons_of_ne_nil hattributes
  rw [linkStart, openingText, has, ← toList_pairs]
  simp

theorem spells_line {indent : String} (hindent : Spells indent (Atom.ofText indent))
    (b : Bookmark) : Spells (indent ++ lineText b) (entryLine indent (entry b)) :=
  hindent.append ((spells_mark (m := entryStart) (by decide)).append
    (spells_textElement (toList_linkStart b) (by decide)))

end Line

section Document

variable {bs : List Bookmark}

def folderTexts (label : String) (bs : List Bookmark) : List String :=
  ["    <DT><H3>" ++ escape label ++ "</H3>", "    <DL><p>"] ++
    (bs.map lineText).map ("        " ++ ·) ++ ["    </DL><p>"]

/-- The lines of the file as they are written. -/
def documentTexts (title : String) (bs : List Bookmark) : List String :=
  header title ++ ["<DL><p>"] ++ ((inFolder bs "").map lineText).map ("    " ++ ·) ++
    ((labels bs).map fun l => folderTexts l (inFolder bs l)).flatten ++ ["</DL><p>"]

theorem mapM_ok {α β : Type} {f : α → Except Fault β} {g : α → β} {xs : List α}
    (h : ∀ x ∈ xs, f x = .ok (g x)) : xs.mapM f = .ok (xs.map g) := by
  induction xs with
  | nil => rfl
  | cons x xs ih =>
    rw [List.mapM_cons, h x (by simp), ih fun y hy => h y (by simp [hy])]
    rfl

theorem section_eq (label : String) (h : ∀ b ∈ bs, Textual b) :
    section_ (.str label) bs = .ok (folderTexts label bs) := by
  rw [section_, escaped_text ⟨label, rfl⟩, mapM_ok fun b hb => line_eq (h b hb), textOr_str]
  rfl

theorem write_eq (title : String) (h : ∀ b ∈ bs, Textual b) :
    write title bs = .ok ("\n".intercalate (documentTexts title bs) ++ "\n") := by
  have hin (label : String) : ∀ b ∈ inFolder bs label, Textual b := fun b hb =>
    h b (List.mem_of_mem_filter hb)
  have htop : bs.filter (!·.folder.truthy) = inFolder bs "" := by
    refine List.filter_congr fun b hb => ?_
    obtain ⟨f, hf⟩ := (h b hb).folder
    by_cases hempty : f = "" <;> simp [hf, hempty, Json.truthy]
  have hsections : ((labels bs).map fun l => (Json.str l, inFolder bs l)).mapM
      (fun group => section_ group.1 group.2) =
        .ok ((labels bs).map fun l => folderTexts l (inFolder bs l)) := by
    rw [List.mapM_map]
    exact mapM_ok fun l _ => section_eq l (hin l)
  rw [write, group_eq fun b hb => (h b hb).folder, htop, mapM_ok fun b hb => line_eq (hin "" b hb)]
  simp only [bind, Except.bind, hsections]
  rfl

theorem spells_head (title : String) : List.Forall₂ Spells (header title) (headLines title) := by
  rw [header, String.append_assoc, String.append_assoc]
  exact .cons (spells_mark (by decide)) (.cons (spells_mark (by decide))
    (.cons (spells_mark (by decide)) (.cons (spells_mark (by decide))
      (.cons (spells_textElement (by decide) (by decide))
        (.cons (spells_textElement (by decide) (by decide)) .nil)))))

/-- The lines that begin or end a list. -/
theorem spells_listStart {indent : String} (hindent : Spells indent (Atom.ofText indent)) :
    Spells (indent ++ "<DL><p>") (listLine indent) :=
  hindent.append ((spells_mark (s := "<DL>") (m := listStart) (by decide)).append
    (spells_mark (s := "<p>") (m := paragraph) (by decide)))

theorem spells_listEnd {indent : String} (hindent : Spells indent (Atom.ofText indent)) :
    Spells (indent ++ "</DL><p>") (endLine indent) :=
  hindent.append ((spells_mark (s := "</DL>") (m := listEnd) (by decide)).append
    (spells_mark (s := "<p>") (m := paragraph) (by decide)))

theorem spells_entries (indent : String) (hindent : Spells indent (Atom.ofText indent))
    (bs : List Bookmark) : List.Forall₂ Spells ((bs.map lineText).map (indent ++ ·))
      ((bs.map entry).map (entryLine indent)) := by
  induction bs with
  | nil => exact .nil
  | cons b bs ih => exact .cons (spells_line hindent b) ih

theorem spells_folder (label : String) (bs : List Bookmark) :
    List.Forall₂ Spells (folderTexts label bs) (folderLines label (bs.map entry)) := by
  have hindent : Spells "    " (Atom.ofText "    ") := spells_plain (by decide)
  have hwritten : "    <DT><H3>" ++ escape label ++ "</H3>" =
      "    " ++ ("<DT>" ++ ("<H3>" ++ (escape label ++ "</H3>"))) := by
    simp only [← String.append_assoc]
    rfl
  have hheading :
      Spells ("    <DT><H3>" ++ escape label ++ "</H3>") (headingLine "    " label) := by
    rw [hwritten]
    exact hindent.append ((spells_mark (m := entryStart) (by decide)).append
      (spells_textElement (by decide) (by decide)))
  have hentries := spells_entries "        " (spells_plain (by decide)) bs
  exact .cons hheading (.cons (spells_listStart hindent)
    (List.rel_append hentries (.cons (spells_listEnd hindent) .nil)))

theorem spells_folders (bs : List Bookmark) (ls : List String) :
    List.Forall₂ Spells (ls.map fun l => folderTexts l (inFolder bs l)).flatten
      ((ls.map fun l => (l, (inFolder bs l).map entry)).flatMap
        fun f => folderLines f.1 f.2) := by
  induction ls with
  | nil => exact .nil
  | cons l ls ih => exact List.rel_append (spells_folder l (inFolder bs l)) ih

theorem spells_document (title : String) (bs : List Bookmark) :
    List.Forall₂ Spells (documentTexts title bs)
      (documentLines title ((inFolder bs "").map entry)
        ((labels bs).map fun l => (l, (inFolder bs l).map entry))) := by
  have hnone : Spells "" (Atom.ofText "") := spells_plain (by decide)
  have htop := spells_entries "    " (spells_plain (by decide)) (inFolder bs "")
  have hfolders := spells_folders bs (labels bs)
  have hend : List.Forall₂ Spells ["</DL><p>"] [endLine ""] := .cons (spells_listEnd hnone) .nil
  have hbody := List.rel_append htop (List.rel_append hfolders hend)
  have hlines := List.rel_append (spells_head title) (.cons (spells_listStart hnone) hbody)
  simpa [documentTexts, documentLines] using hlines

/-- What is written is the document of the bookmarks. -/
theorem write_spells (title : String) (h : ∀ b ∈ bs, Textual b) :
    ∃ text, write title bs = .ok text ∧
      Spells text (ofLines (documentLines title ((inFolder bs "").map entry)
        ((labels bs).map fun l => (l, (inFolder bs l).map entry)))) :=
  ⟨_, write_eq title h, spells_lines (spells_document title bs) (by simp [documentTexts, header])⟩

end Document

end LinkShelf.Netscape

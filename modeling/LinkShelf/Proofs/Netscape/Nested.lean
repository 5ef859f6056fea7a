import LinkShelf.Proofs.Netscape.Roundtrip
/-!
Folders inside folders. Entries and paragraphs are never closed, so all that comes after one stands
inside it; but the end of a list closes whatever is open in it and nothing else, and leads back to
the list around it. So every link gets the folder that it was written in, however many folders have
come and gone before it.
-/
namespace LinkShelf.Netscape

open Html

/-- The folders of the open lists, from the innermost on. -/
def nestOf (top : List Node) : List Frame → List String
  | [] => []
  | f :: fs =>
    if f.name = "dl" then folderAfter (lastElement (levelOf top fs)) :: nestOf top fs
    else nestOf top fs

theorem folderOf_eq (top : List Node) (fs : List Frame) :
    folderOf top fs = (nestOf top fs).headD "" := by
  induction fs with
  | nil => rfl
  | cons f fs ih =>
    unfold folderOf nestOf
    split
    · rfl
    · exact ih

end LinkShelf.Netscape

namespace LinkShelf.Html.Builder

open Netscape

variable {b : Builder} {name : String}

def nest (b : Builder) : List String := nestOf b.top b.stack

theorem folder_eq (b : Builder) : b.folder = b.nest.headD "" := folderOf_eq b.top b.stack

@[simp] theorem nest_add (n : Node) (b : Builder) : (b.add n).nest = b.nest := by
  obtain ⟨stack, top, pending, voids⟩ := b
  cases stack with
  | nil => rfl
  | cons f fs => rfl

@[simp] theorem nest_flush (b : Builder) : b.flush.nest = b.nest := by
  unfold flush
  split
  · rfl
  · exact nest_add ..

@[simp] theorem nest_typed (cs : List Char) (b : Builder) : (b.typed cs).nest = b.nest := rfl

theorem nest_push (name : String) (as : Attributes) (b : Builder) :
    (b.push name as).nest =
      if name = "dl" then folderAfter b.before :: b.nest else b.nest := rfl

/-- Only the start of a list adds to the nest. -/
theorem nest_opening (as : Attributes) (b : Builder) (hvoid : name ∉ voidNames)
    (hlist : name ≠ "dl") : (b.step (.opening name as)).nest = b.nest := by
  rw [step, if_neg hvoid, nest_push, if_neg hlist, nest_flush]

theorem nest_pop (b : Builder) :
    b.pop.nest = if b.names.head? = some "dl" then b.nest.tail else b.nest := by
  obtain ⟨stack, top, pending, voids⟩ := b
  cases stack with
  | nil => rfl
  | cons f fs =>
    rw [pop, nest_add]
    by_cases hname : f.name = "dl" <;> simp [nest, nestOf, names, hname]

theorem nest_popTo (fuel : Nat) (b : Builder) (hfuel : b.stack.length ≤ fuel) :
    (popTo "dl" fuel b).nest = b.nest.tail := by
  induction fuel generalizing b with
  | zero =>
    have hstack := List.eq_nil_of_length_eq_zero (Nat.le_zero.mp hfuel)
    simp [popTo, nest, hstack, nestOf]
  | succ fuel ih =>
    have hpop := nest_pop b
    unfold popTo
    cases hstack : b.stack with
    | nil => simp [nest, hstack, nestOf]
    | cons f fs =>
      by_cases hname : f.name = "dl"
      · rw [if_pos (by simp [names, hstack, hname])] at hpop
        simpa only [if_pos hname] using hpop
      · rw [if_neg (by simp [names, hstack, hname])] at hpop
        have hlength : b.pop.stack.length = fs.length := by
          simpa [names, hstack] using congrArg List.length (names_pop b)
        have hrest := ih b.pop (by rw [hlength]; simpa [hstack] using hfuel)
        simpa only [if_neg hname, hpop] using hrest

/-- The end of a list leads to the list around it. -/
theorem nest_close (b : Builder) : (b.close "dl").nest = b.nest.tail := by
  unfold close
  split
  · exact nest_popTo _ b (Nat.le_refl _)
  · rename_i hclosed
    have hnone : ∀ fs : List Frame, (∀ f ∈ fs, f.name ≠ "dl") → nestOf b.top fs = [] := by
      intro fs
      induction fs with
      | nil => exact fun _ => rfl
      | cons f fs ih =>
        intro h
        rw [nestOf, if_neg (h f List.mem_cons_self)]
        exact ih fun g hg => h g (List.mem_cons_of_mem f hg)
    have hnest : b.nest = [] := hnone b.stack fun f hf hname =>
      hclosed (List.any_eq_true.mpr ⟨f, hf, by simp [hname]⟩)
    rw [hnest]
    rfl

end LinkShelf.Html.Builder

namespace LinkShelf.Netscape

open Html Builder

/-- What a list holds: links and folders in any order, and what these hold in turn. -/
inductive Outline where
  | nil
  | link (url title : String) (rest : Outline)
  | folder (name : String) (inside rest : Outline)

/-- A link and the name of the folder that it is in. -/
structure Placed where
  url : String
  title : String
  folder : String

namespace Outline

/-- The links in their order, each with the innermost folder around it. -/
def links (within : String) : Outline → List Placed
  | nil => []
  | link url title rest => ⟨url, title, within⟩ :: rest.links within
  | folder name inside rest => inside.links name ++ rest.links within

def linkText (url title : String) : String :=
  "<DT><A HREF=\"" ++ escape url ++ "\">" ++ escape title ++ "</A>"

def headingText (name : String) : String := "<DT><H3>" ++ escape name ++ "</H3>"

/-- The lines that stand for it in a bookmark file, indented according to their depth. -/
def texts (indent : Nat → String) (depth : Nat) : Outline → List String
  | nil => []
  | link url title rest =>
    (indent depth ++ linkText url title) :: rest.texts indent depth
  | folder name inside rest =>
    (indent depth ++ headingText name) :: (indent depth ++ "<DL><p>") ::
      (inside.texts indent (depth + 1) ++ (indent depth ++ "</DL><p>") :: rest.texts indent depth)

/-- A bookmark file that holds it in its list. -/
def file (indent : Nat → String) (title : String) (o : Outline) : String :=
  "\n".intercalate (header title ++ (indent 0 ++ "<DL><p>") ::
    (o.texts indent 1 ++ [indent 0 ++ "</DL><p>"])) ++ "\n"

end Outline

/-- The entry of a link. -/
def linkEntry (url title : String) : Entry where
  attributes := [("HREF", url)]
  title := title
  named := by
    have hname : IsName "HREF" := by decide
    simpa using hname
  addressed := by
    have hname : Text.lower "HREF" = "href" := by decide +kernel
    simp [Attributes.lowered, Attributes.get?, hname]

namespace Placed

/-- The bookmark that a link is read as. -/
def bookmark (now : String) (p : Placed) : Bookmark where
  title := .str (if Text.trim p.title = "" then Text.trim p.url else Text.trim p.title)
  url := .str (Text.trim p.url)
  description := .str ""
  folder := .str (Text.trim p.folder)
  favicon := .str ""
  createdAt := .str now
  updatedAt := .str now

def inTree (p : Placed) : Link := (linkEntry p.url p.title).link (Text.trim p.folder)

theorem bookmark?_inTree {p : Placed} (h : Text.blank p.url = false) (now : String) :
    bookmark? now p.inTree = some (p.bookmark now) := by
  have hname : Text.lower "HREF" = "href" := by decide +kernel
  have hurl : Text.trim p.url ≠ "" := by
    rw [Ne, Text.trim_eq_empty_iff, h]
    exact Bool.false_ne_true
  have hattributes : p.inTree.attributes = [("href", p.url)] := by
    simp [inTree, linkEntry, Entry.link, Attributes.lowered, hname]
  have htitle : Text.trim p.inTree.text = Text.trim p.title := trim_leaf p.title
  have hfolder : p.inTree.folder = Text.trim p.folder := rfl
  have htags : Tags.clean [] ((Text.split "" ',').map .str) = [] := by decide
  have htime : timeText? "" = none := by decide
  rw [bookmark?]
  simp [hattributes, Attributes.get?, List.lookup_cons, hurl, htitle, hfolder, htags, htime,
    bookmark]

end Placed

namespace Outline

/-- The lines as markup. -/
def lines (indent : Nat → String) (depth : Nat) : Outline → List (List Atom)
  | nil => []
  | link url title rest =>
    entryLine (indent depth) (linkEntry url title) :: rest.lines indent depth
  | folder name inside rest =>
    headingLine (indent depth) name :: listLine (indent depth) ::
      (inside.lines indent (depth + 1) ++ endLine (indent depth) :: rest.lines indent depth)

theorem spells_link {indent : String} (hindent : Spells indent (Atom.ofText indent))
    (url title : String) :
    Spells (indent ++ linkText url title) (entryLine indent (linkEntry url title)) := by
  have hwritten : linkText url title =
      "<DT>" ++ ("<A HREF=\"" ++ escape url ++ "\">" ++ (escape title ++ "</A>")) := by
    unfold linkText
    simp only [← String.append_assoc]
    rfl
  have hstart : ("<A HREF=\"" ++ escape url ++ "\">").toList =
      openingText "A" (linkEntry url title).attributes := by
    simp [linkEntry, openingText, attributeText, escape]
  rw [hwritten]
  exact hindent.append ((spells_mark (m := entryStart) (by decide)).append
    (spells_textElement hstart (by decide)))

theorem spells_heading {indent : String} (hindent : Spells indent (Atom.ofText indent))
    (name : String) : Spells (indent ++ headingText name) (headingLine indent name) := by
  have hwritten : headingText name = "<DT>" ++ ("<H3>" ++ (escape name ++ "</H3>")) := by
    unfold headingText
    simp only [← String.append_assoc]
    rfl
  rw [hwritten]
  exact hindent.append ((spells_mark (m := entryStart) (by decide)).append
    (spells_textElement (by decide) (by decide)))

theorem spells_texts {indent : Nat → String}
    (hindent : ∀ d, Spells (indent d) (Atom.ofText (indent d))) (depth : Nat) (o : Outline) :
    List.Forall₂ Spells (o.texts indent depth) (o.lines indent depth) := by
  induction o generalizing depth with
  | nil => exact .nil
  | link url title rest ih => exact .cons (spells_link (hindent depth) url title) (ih depth)
  | folder name inside rest ihinside ihrest =>
    have hafter := List.Forall₂.cons (spells_listEnd (hindent depth)) (ihrest depth)
    exact .cons (spells_heading (hindent depth) name) (.cons (spells_listStart (hindent depth))
      (List.rel_append (ihinside (depth + 1)) hafter))

end Outline

section Lines

variable {b : Builder} {links : List Link} {folder name : String} {nest : List String}

/-- A quiet builder that has met these links, with lists of these folders open. -/
structure Within (b : Builder) (links : List Link) (nest : List String) : Prop extends Quiet b where
  links : b.links = links
  nest : b.nest = nest

theorem Within.stands (h : Within b links nest) : Stands b links (nest.headD "") where
  toQuiet := h.toQuiet
  links := h.links
  folder := by rw [folder_eq, h.nest]

theorem Stands.within (h : Stands b links folder) (hnest : b.nest = nest) :
    Within b links nest where
  toQuiet := h.toQuiet
  links := h.links
  nest := hnest

theorem Within.text (h : Within b links nest) (s : String) :
    Within (feed b (Atom.ofText s)) links nest := by
  have hnest : (feed b (Atom.ofText s)).nest = nest := by rw [feed_ofText, nest_typed, h.nest]
  exact (h.stands.text s).within hnest

theorem nest_paragraph (b : Builder) : (b.step paragraph.token).nest = b.nest := by
  have htoken : paragraph.token = .opening "p" [] := by decide +kernel
  rw [htoken]
  exact nest_opening [] b (by decide) (by decide)

/-- An entry, whether of a link or of a folder, is in the lists that were open before. -/
theorem Within.nest_entry (h : Within b links nest) (indent s : String) (as : Attributes)
    (hname : IsName name) (has : ∀ a ∈ as, IsName a.1) (hraw : isRaw (Text.lower name) = false)
    (hlower : Text.lower name = "a" ∨ Text.lower name = "h3") :
    (feed b (Atom.ofText indent ++ .mark entryStart :: textElement name s as hname has hraw)).nest =
      nest := by
  have htoken : entryStart.token = .opening "dt" [] := by decide +kernel
  have hordinary : Ordinary (Text.lower name) ∧ Text.lower name ∉ voidNames ∧
      Text.lower name ≠ "meta" := by
    rcases hlower with hlower | hlower <;> rw [hlower] <;> decide
  have hentry := (h.stands.text indent).entryStart.toQuiet
  have hvoids := fun hv => hordinary.2.2 (hentry.voids _ hv)
  rw [feed_append, feed_cons, Atom.token_mark, feed_textElement,
    foldl_element hentry.ordinary as.lowered s hordinary.1 hordinary.2.1 hvoids, nest_add,
    nest_flush, htoken, nest_opening [] _ (by decide) (by decide), (h.text indent).nest]

theorem Within.entryLine (h : Within b links (folder :: nest)) (indent : String) (e : Entry) :
    Within (feed b (entryLine indent e)) (links ++ [e.link folder]) (folder :: nest) :=
  (h.stands.entryLine indent e).within
    (h.nest_entry indent e.title e.attributes _ _ _ (.inl (by decide +kernel)))

theorem Within.headingLine (h : Within b links nest) (indent label : String) :
    Within (feed b (headingLine indent label)) links nest ∧
      folderAfter (feed b (headingLine indent label)).before = Text.trim label := by
  obtain ⟨hheading, hbefore⟩ := h.stands.headingLine indent label
  refine ⟨hheading.within (h.nest_entry indent label [] _ _ _ (.inr (by decide +kernel))), ?_⟩
  rw [hbefore]
  exact trim_leaf label

theorem Within.listLine (h : Within b links nest) (indent : String) :
    Within (feed b (listLine indent)) links (folderAfter b.before :: nest) := by
  have htoken : listStart.token = .opening "dl" [] := by decide +kernel
  have hvoid : "dl" ∉ voidNames := by decide
  refine (h.stands.listLine indent).within ?_
  rw [Netscape.listLine, feed_append, feed_ofText, feed_cons, feed_cons, feed_nil, Atom.token_mark,
    Atom.token_mark, nest_paragraph, htoken, step, if_neg hvoid, nest_push, if_pos rfl,
    before_flush, before_typed, nest_flush, nest_typed, h.nest]

theorem Within.endLine (h : Within b links (folder :: nest)) (indent : String) :
    Within (feed b (endLine indent)) links nest := by
  have htoken : listEnd.token = .closing "dl" := by decide +kernel
  have hindent := h.text indent
  have hvoids : "dl" ∉ (feed b (Atom.ofText indent)).voids := fun hv =>
    absurd (hindent.voids "dl" hv) (by decide)
  obtain ⟨outer, hend⟩ := h.stands.endLine indent
  refine hend.within ?_
  rw [Netscape.endLine, feed_append, feed_cons, feed_cons, feed_nil, Atom.token_mark,
    Atom.token_mark, nest_paragraph, htoken, step, endTag, if_neg hvoids, nest_close, nest_flush,
    hindent.nest, List.tail_cons]

theorem Within.outline (h : Within b links (Text.trim folder :: nest)) (indent : Nat → String)
    (depth : Nat) (o : Outline) :
    Within (feed b (ofLines (o.lines indent depth)))
      (links ++ (o.links folder).map Placed.inTree) (Text.trim folder :: nest) := by
  induction o generalizing b links folder nest depth with
  | nil => simpa [Outline.links, Outline.lines] using h
  | link url title rest ih =>
    have hentry := h.entryLine (indent depth) (linkEntry url title)
    have hrest := ih (hentry.text "\n") depth
    rw [Outline.lines, ofLines_cons, feed_append, feed_append]
    simpa [Outline.links, Placed.inTree] using hrest
  | folder name inside rest ihinside ihrest =>
    obtain ⟨hheading, hfolder⟩ := h.headingLine (indent depth) name
    have hlist := (hheading.text "\n").listLine (indent depth)
    rw [feed_ofText, before_typed, hfolder] at hlist
    have hinside := ihinside (hlist.text "\n") (depth + 1)
    have hend := (hinside.endLine (indent depth)).text "\n"
    have hrest := ihrest hend depth
    simpa [Outline.links, Outline.lines, ofLines_cons, ofLines_append, feed_append, feed_ofText]
      using hrest

end Lines

variable {indent : Nat → String} {title now : String}

theorem spells_blank {s : String} (h : Text.blank s = true) : Spells s (Atom.ofText s) := by
  refine spells_plain (List.all_eq_true.mpr fun c hc => ?_)
  have hblank : Text.isBlank c = true := List.all_eq_true.mp h c hc
  rw [Bool.not_eq_true', Bool.eq_false_iff]
  intro hspecial
  rcases isSpecial_cases hspecial with rfl | rfl | rfl | rfl | rfl <;> cases hblank

/-- A bookmark file as markup. -/
def Outline.document (indent : Nat → String) (title : String) (o : Outline) : List (List Atom) :=
  headLines title ++ listLine (indent 0) :: (o.lines indent 1 ++ [endLine (indent 0)])

theorem Outline.spells_file (hindent : ∀ d, Text.blank (indent d) = true) (title : String)
    (o : Outline) : Spells (o.file indent title) (ofLines (o.document indent title)) := by
  have hspells (d : Nat) := spells_blank (hindent d)
  have hbody := List.rel_append (o.spells_texts hspells 1)
    (.cons (spells_listEnd (hspells 0)) .nil)
  exact spells_lines (List.rel_append (spells_head title)
    (.cons (spells_listStart (hspells 0)) hbody)) (by simp [header])

theorem linksIn_outline (indent : Nat → String) (title : String) (o : Outline) :
    linksIn "" none (nodes ((ofLines (o.document indent title)).map Atom.token)) =
      (o.links "").map Placed.inTree := by
  have hnone : Text.trim "" = "" := by decide
  obtain ⟨hhead, hbefore⟩ := stands_head title
  have hlist := (hhead.within rfl).listLine (indent 0)
  rw [hbefore, ← hnone] at hlist
  have hend := ((hlist.text "\n").outline indent 1 o).endLine (indent 0)
  have hfinish := (hend.text "\n").stands.finish
  rw [nodes]
  simpa [Outline.document, ofLines_cons, ofLines_append, feed_append, feed_ofText, feed]
    using hfinish

theorem filterMap_inTree {ps : List Placed} (h : ∀ p ∈ ps, Text.blank p.url = false) :
    (ps.map Placed.inTree).filterMap (bookmark? now) = ps.map (Placed.bookmark now) := by
  induction ps with
  | nil => rfl
  | cons p ps ih =>
    rw [List.map_cons, List.filterMap_cons_some (Placed.bookmark?_inTree (h p (by simp)) now),
      ih fun q hq => h q (by simp [hq]), List.map_cons]

/-- Every link of the file is read as one bookmark, in the order of the file and in the innermost
folder around it, whatever the names and titles are and however the lines are indented. -/
theorem read_outline (o : Outline) (hindent : ∀ d, Text.blank (indent d) = true)
    (hurls : ∀ p ∈ o.links "", Text.blank p.url = false) (title now : String) :
    read now (o.file indent title) = .ok ((o.links "").map (Placed.bookmark now)) := by
  have hspells := o.spells_file hindent title
  obtain ⟨ts, htokens, hcut⟩ := tokens_writing (ofLines (o.document indent title))
  have hdeclares : declares (o.file indent title).toList = true := by
    rw [hspells]
    exact declares_doctype _
  rw [← hspells] at htokens
  rw [read, htokens]
  simp only [hdeclares, Bool.true_or, if_true, hcut.nodes, linksIn_outline,
    filterMap_inTree hurls]

section Example

/-- Folders in folders, one of them empty and one twice, links between them, and characters that
mean something in markup. -/
def nestedOutline : Outline :=
  .link "https://root.example/" "Root"
    (.folder "Dev & <Tools>"
      (.folder "" .nil
        (.folder " Deep " (.link " https://deep.example/?a=1&b=2 " "\"Deep\" <b>" .nil)
          (.link "https://dev.example/" "" (.folder "Deep" .nil .nil))))
      (.link "https://after.example/" "After" .nil))

def tabs (depth : Nat) : String := .ofList (List.replicate depth '\t')

theorem blank_tabs (depth : Nat) : Text.blank (tabs depth) = true := by
  have hblank : Text.isBlank '\t' = true := by decide
  unfold Text.blank tabs
  simp [hblank]

theorem nestedOutline_read :
    (∀ d, Text.blank (tabs d) = true) ∧
    (∀ p ∈ nestedOutline.links "", Text.blank p.url = false) ∧
    (nestedOutline.links "").map (fun p => (p.url, p.folder)) =
      [("https://root.example/", ""), (" https://deep.example/?a=1&b=2 ", " Deep "),
        ("https://dev.example/", "Dev & <Tools>"), ("https://after.example/", "")] ∧
    read "now" (nestedOutline.file tabs "Mine") =
      .ok ((nestedOutline.links "").map (Placed.bookmark "now")) := by
  have hurls : ∀ p ∈ nestedOutline.links "", Text.blank p.url = false := by
    simp only [nestedOutline, Outline.links, List.nil_append, List.cons_append,
      List.forall_mem_cons]
    exact ⟨by decide, by decide, by decide, by decide, nofun⟩
  exact ⟨blank_tabs, hurls, rfl, read_outline nestedOutline blank_tabs hurls "Mine" "now"⟩

end Example

end LinkShelf.Netscape

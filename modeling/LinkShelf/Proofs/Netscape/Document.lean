import LinkShelf.Proofs.Netscape.Tree
import LinkShelf.Proofs.Text.Trim
/-!
A bookmark file as markup: what it is made of, line by line, and the links of its tree. No entry is
ever closed, so every line stands deeper in the tree than the one before; the folder of a link is
still that of its list.
-/
namespace LinkShelf.Netscape

open Html Builder

/-- What a link shows: its attributes under their written names, and its text. -/
structure Entry where
  attributes : Attributes
  title : String
  named : ∀ a ∈ attributes, IsName a.1
  addressed : (attributes.lowered.get? "href").isSome = true

/-- The link in the tree. Blanks alone in its text shrink to one. -/
def Entry.link (folder : String) (e : Entry) : Link :=
  { attributes := e.attributes.lowered, text := shownTexts (leaf e.title), folder }

section Atoms

/-- An element that holds a text. -/
def textElement (name s : String) (as : Attributes) (hname : IsName name)
    (h : ∀ a ∈ as, IsName a.1) (hraw : isRaw (Text.lower name) = false) : List Atom :=
  .mark (.opening name as hname h hraw) :: (Atom.ofText s ++ [.mark (.closing name hname)])

def entryStart : Mark := .opening "DT" [] (by decide) (by simp) (by decide +kernel)

def listStart : Mark := .opening "DL" [] (by decide) (by simp) (by decide +kernel)

def listEnd : Mark := .closing "DL" (by decide)

def paragraph : Mark := .opening "p" [] (by decide) (by simp) (by decide +kernel)

def doctype : Mark :=
  .declaration 'D' "OCTYPE NETSCAPE-Bookmark-file-1".toList (by decide) (by decide)

def origin : Mark := .comment " This is an automatically generated file. ".toList (by decide)

def warning : Mark := .comment " DO NOT EDIT! ".toList (by decide)

def charset : Mark :=
  .opening "META" [("HTTP-EQUIV", "Content-Type"), ("CONTENT", "text/html; charset=UTF-8")]
    (by decide) (by decide) (by decide +kernel)

/-- The lines before the first list. -/
def headLines (title : String) : List (List Atom) :=
  [[.mark doctype], [.mark origin], [.mark warning], [.mark charset],
    textElement "TITLE" title [] (by decide) (by simp) (by decide +kernel),
    textElement "H1" title [] (by decide) (by simp) (by decide +kernel)]

def listLine (indent : String) : List Atom :=
  Atom.ofText indent ++ [.mark listStart, .mark paragraph]

def endLine (indent : String) : List Atom :=
  Atom.ofText indent ++ [.mark listEnd, .mark paragraph]

def entryLine (indent : String) (e : Entry) : List Atom :=
  Atom.ofText indent ++ .mark entryStart ::
    textElement "A" e.title e.attributes (by decide) e.named (by decide +kernel)

def headingLine (indent label : String) : List Atom :=
  Atom.ofText indent ++ .mark entryStart ::
    textElement "H3" label [] (by decide) (by simp) (by decide +kernel)

/-- The lines of a folder. -/
def folderLines (label : String) (es : List Entry) : List (List Atom) :=
  headingLine "    " label :: listLine "    " :: (es.map (entryLine "        ") ++ [endLine "    "])

/-- The lines of a bookmark file: entries without a folder, then the folders. -/
def documentLines (title : String) (top : List Entry) (folders : List (String × List Entry)) :
    List (List Atom) :=
  headLines title ++ listLine "" :: (top.map (entryLine "    ") ++
    (folders.flatMap (fun f => folderLines f.1 f.2) ++ [endLine ""]))

def ofLines (lines : List (List Atom)) : List Atom :=
  lines.flatMap (· ++ Atom.ofText "\n")

end Atoms

section Links

variable {b : Builder} {links : List Link} {folder : String}

/-- Goes on building with the tokens of some markup. -/
def feed (b : Builder) (as : List Atom) : Builder := (as.map Atom.token).foldl step b

@[simp] theorem feed_nil (b : Builder) : feed b [] = b := rfl

theorem feed_append (b : Builder) (xs ys : List Atom) :
    feed b (xs ++ ys) = feed (feed b xs) ys := by
  simp [feed]

theorem feed_cons (b : Builder) (a : Atom) (as : List Atom) :
    feed b (a :: as) = feed (b.step a.token) as := rfl

theorem feed_ofText (b : Builder) (s : String) : feed b (Atom.ofText s) = b.typed s.toList := by
  rw [feed, Atom.map_token_ofText, foldl_singles]

theorem Stands.text (h : Stands b links folder) (s : String) :
    Stands (feed b (Atom.ofText s)) links folder := by
  rw [feed_ofText]
  exact h.typed s.toList

theorem linksIn_leaf (folder : String) (before : Option Node) (s : String) :
    linksIn folder before (leaf s) = [] := by
  unfold leaf
  split <;> simp [linksIn, linksOf]

/-- The start of an entry leaves everything as it is. -/
theorem Stands.entryStart (h : Stands b links folder) :
    Stands (b.step entryStart.token) links folder := by
  have htoken : Netscape.entryStart.token = .opening "dt" [] := by decide +kernel
  rw [htoken]
  exact h.opening (.inl rfl)

theorem Stands.paragraph (h : Stands b links folder) :
    Stands (b.step paragraph.token) links folder := by
  have htoken : Netscape.paragraph.token = .opening "p" [] := by decide +kernel
  rw [htoken]
  exact h.opening (.inr rfl)

theorem feed_textElement (b : Builder) (name s : String) (as : Attributes) (hname : IsName name)
    (h : ∀ a ∈ as, IsName a.1) (hraw : isRaw (Text.lower name) = false) :
    feed b (textElement name s as hname h hraw) =
      (Token.opening (Text.lower name) as.lowered ::
        ((Atom.ofText s).map Atom.token ++ [.closing (Text.lower name)])).foldl step b := by
  simp [feed, textElement]

theorem Stands.entryLine (h : Stands b links folder) (indent : String) (e : Entry) :
    Stands (feed b (entryLine indent e)) (links ++ [e.link folder]) folder := by
  have hname : Text.lower "A" = "a" := by decide +kernel
  have hentry := (h.text indent).entryStart
  obtain ⟨hlink, -⟩ := hentry.element "a" e.title e.attributes.lowered (.inr rfl)
  rw [Netscape.entryLine, feed_append, feed_cons, feed_textElement, hname]
  simpa [linksOf, e.addressed, linksIn_leaf, Entry.link] using hlink

/-- Any other element of text is no link. -/
theorem Stands.noLink (h : Stands b links folder) (name s : String)
    (hname : IsName name) (hraw : isRaw (Text.lower name) = false)
    (hlower : Text.lower name = "title" ∨ Text.lower name = "h1" ∨ Text.lower name = "h3") :
    Stands (feed b (textElement name s [] hname nofun hraw)) links folder ∧
      (feed b (textElement name s [] hname nofun hraw)).before =
        some (.element (Text.lower name) [] (leaf s)) := by
  have hlink : Text.lower name ≠ "a" := by rcases hlower with h | h | h <;> rw [h] <;> decide
  have helement := h.element (Text.lower name) s [] (.inl hlower)
  rw [feed_textElement]
  simpa [linksOf, hlink, linksIn_leaf, Attributes.lowered] using helement

theorem Stands.headingLine (h : Stands b links folder) (indent label : String) :
    Stands (feed b (headingLine indent label)) links folder ∧
      (feed b (headingLine indent label)).before = some (.element "h3" [] (leaf label)) := by
  have hname : Text.lower "H3" = "h3" := by decide +kernel
  have hheading := (h.text indent).entryStart.noLink "H3" label (by decide) (by decide +kernel)
    (.inr (.inr hname))
  rw [hname] at hheading
  rw [Netscape.headingLine, feed_append, feed_cons]
  exact hheading

theorem Stands.listLine (h : Stands b links folder) (indent : String) :
    Stands (feed b (listLine indent)) links (folderAfter b.before) := by
  have htoken : listStart.token = .opening "dl" [] := by decide +kernel
  have hlist := ((h.typed indent.toList).list []).paragraph
  rw [Netscape.listLine, feed_append, feed_ofText, feed_cons, feed_cons, Atom.token_mark, htoken]
  exact hlist

theorem Stands.endLine (h : Stands b links folder) (indent : String) :
    ∃ outer, Stands (feed b (endLine indent)) links outer := by
  have htoken : listEnd.token = .closing "dl" := by decide +kernel
  obtain ⟨outer, hclosed⟩ := (h.text indent).closing
  refine ⟨outer, ?_⟩
  rw [Netscape.endLine, feed_append, feed_cons, feed_cons, Atom.token_mark, htoken]
  exact hclosed.paragraph

@[simp] theorem ofLines_nil : ofLines [] = [] := rfl

theorem ofLines_cons (line : List Atom) (lines : List (List Atom)) :
    ofLines (line :: lines) = line ++ (Atom.ofText "\n" ++ ofLines lines) := by
  simp [ofLines]

theorem ofLines_append (xs ys : List (List Atom)) : ofLines (xs ++ ys) = ofLines xs ++ ofLines ys :=
  List.flatMap_append

theorem Stands.entries (h : Stands b links folder) (indent : String) (es : List Entry) :
    Stands (feed b (ofLines (es.map (Netscape.entryLine indent))))
      (links ++ es.map (Entry.link folder)) folder := by
  induction es generalizing b links with
  | nil => simpa using h
  | cons e es ih =>
    have hrest := ih ((h.entryLine indent e).text "\n")
    rw [List.map_cons, ofLines_cons, feed_append, feed_append]
    simpa using hrest

theorem blank_of_isSpace {s : String} (h : s.toList.all isSpace = true) : Text.blank s = true := by
  rw [Text.blank, List.all_eq_true]
  intro c hc
  have hspace := List.all_eq_true.mp h c hc
  simp only [isSpace, Bool.or_eq_true, decide_eq_true_eq] at hspace
  rcases hspace with (((rfl | rfl) | rfl) | rfl) | rfl <;> decide

/-- Trimming does not tell a text from its shrunken blanks. -/
theorem trim_leaf (s : String) : Text.trim (shownTexts (leaf s)) = Text.trim s := by
  by_cases hs : s = ""
  · rw [leaf, if_pos hs, hs, shownTexts]
  have htext : shownTexts (leaf s) = .ofList (shrunk s.toList) := by
    simp [leaf, hs, shownTexts, Node.shownText]
  cases hspace : s.toList.all isSpace with
  | false => rw [htext, shrunk, hspace, if_neg Bool.false_ne_true, String.ofList_toList]
  | true =>
    have hblank : Text.blank (.ofList (shrunk s.toList)) = true := by
      rw [shrunk, hspace, if_pos rfl]
      split <;> decide
    rw [htext, Text.trim_eq_empty_iff.mpr hblank,
      Text.trim_eq_empty_iff.mpr (blank_of_isSpace hspace)]

/-- The list after a heading is the folder of that name, whatever came before. -/
theorem Stands.folderLines (h : Stands b links folder) (label : String) (es : List Entry) :
    ∃ outer, Stands (feed b (ofLines (folderLines label es)))
      (links ++ es.map (Entry.link (Text.trim label))) outer := by
  obtain ⟨hheading, hbefore⟩ := h.headingLine "    " label
  have hlist := (hheading.text "\n").listLine "    "
  rw [feed_ofText] at hlist
  have hfolder : folderAfter ((feed b (Netscape.headingLine "    " label)).typed
      "\n".toList).before = Text.trim label := by
    rw [before_typed, hbefore]
    exact trim_leaf label
  rw [hfolder] at hlist
  obtain ⟨outer, hend⟩ := ((hlist.text "\n").entries "        " es).endLine "    "
  refine ⟨outer, ?_⟩
  have hlast := hend.text "\n"
  simpa [Netscape.folderLines, ofLines_cons, ofLines_append, feed_append, feed_ofText] using hlast

theorem Stands.folders (h : Stands b links folder) (folders : List (String × List Entry)) :
    ∃ outer, Stands (feed b (ofLines (folders.flatMap fun f => Netscape.folderLines f.1 f.2)))
      (links ++ folders.flatMap fun f => f.2.map (Entry.link (Text.trim f.1))) outer := by
  induction folders generalizing b links folder with
  | nil => exact ⟨folder, by simpa using h⟩
  | cons f fs ih =>
    obtain ⟨outer, hfolder⟩ := h.folderLines f.1 f.2
    obtain ⟨outer, hrest⟩ := ih hfolder
    refine ⟨outer, ?_⟩
    rw [List.flatMap_cons, ofLines_append, feed_append]
    simpa using hrest

theorem Stands.aside (h : Stands b links folder) : Stands (b.step .aside) links folder := h.flush

/-- The void element of the head is closed at once. -/
theorem Stands.charset (h : Stands b links folder) :
    Stands (b.step charset.token) links folder := by
  have hvoid : "meta" ∈ voidNames := by decide
  have hname : Text.lower "META" = "meta" := by decide +kernel
  obtain ⟨as, htoken⟩ : ∃ as, Netscape.charset.token = .opening "meta" as := ⟨_, by
    rw [Netscape.charset, Mark.token_opening, hname]⟩
  have hclosed : (b.flush.push "meta" as).close "meta" = b.flush.add (.element "meta" as []) :=
    close_innermost ..
  have hflush := h.flush
  rw [htoken, step, if_pos hvoid, hclosed]
  refine ⟨⟨?_, ?_⟩, ?_, ?_⟩
  · intro n hn
    exact hflush.names n (names_add (.element "meta" as []) b.flush ▸ hn)
  · intro n hn
    rcases List.mem_append.mp hn with hn | hn
    · exact hflush.voids n hn
    · exact List.mem_singleton.mp hn
  · have hlinks : (b.flush.add (.element "meta" as [])).links = links := by
      simp [links_add, hflush.links, linksOf, linksIn]
    exact hlinks
  · exact (folder_add ..).trans hflush.folder

theorem stands_start : Stands {} [] "" := ⟨⟨nofun, nofun⟩, rfl, rfl⟩

/-- The head holds no link, and its last element is no heading of a folder. -/
theorem stands_head (title : String) :
    Stands (feed {} (ofLines (headLines title))) [] "" ∧
      folderAfter (feed {} (ofLines (headLines title))).before = "" := by
  have htitle : Text.lower "TITLE" = "title" := by decide +kernel
  have hh1 : Text.lower "H1" = "h1" := by decide +kernel
  have hasides := (((((stands_start.aside).text "\n").aside).text "\n").aside).text "\n"
  have htitled := ((hasides.charset).text "\n").noLink "TITLE" title (by decide)
    (by decide +kernel) (.inl htitle)
  obtain ⟨hheading, hbefore⟩ := (htitled.1.text "\n").noLink "H1" title (by decide)
    (by decide +kernel) (.inr (.inl hh1))
  rw [hh1] at hbefore
  simp only [headLines, ofLines_cons, ofLines_nil, List.append_nil, feed_append]
  refine ⟨hheading.text "\n", ?_⟩
  rw [feed_ofText, before_typed]
  exact congrArg folderAfter hbefore

/-- The links of a bookmark file are its entries, each in its folder. -/
theorem linksIn_document (title : String) (top : List Entry)
    (folders : List (String × List Entry)) :
    linksIn "" none (nodes ((ofLines (documentLines title top folders)).map Atom.token)) =
      top.map (Entry.link "") ++
        folders.flatMap fun f => f.2.map (Entry.link (Text.trim f.1)) := by
  obtain ⟨hhead, hbefore⟩ := stands_head title
  have hlist := hhead.listLine ""
  rw [hbefore] at hlist
  obtain ⟨outer, hfolders⟩ := ((hlist.text "\n").entries "    " top).folders folders
  obtain ⟨last, hend⟩ := hfolders.endLine ""
  have hfinish := (hend.text "\n").finish
  rw [nodes]
  simpa [documentLines, ofLines_cons, ofLines_append, feed_append, feed_ofText, feed] using hfinish

end Links

end LinkShelf.Netscape

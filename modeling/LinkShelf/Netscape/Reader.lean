import LinkShelf.Bookmark.Record
import LinkShelf.Html.Tree
import LinkShelf.Time.Instant
/-!
Reading a Netscape bookmark file. Every link with an address is a bookmark; its folder is the
heading right before the list that the link stands in.
-/
namespace LinkShelf.Netscape

open Html

structure Link where
  attributes : Attributes
  text : String
  folder : String
  deriving DecidableEq, Repr

/-- The folder of a list, given the element before it. -/
def folderAfter : Option Node → String
  | some (.element "h3" _ children) => Text.trim (shownTexts children)
  | _ => ""

mutual

/-- The links of a node in document order, inside a folder and after an element. -/
def linksOf (folder : String) (before : Option Node) : Node → List Link
  | .text _ _ => []
  | .element name attributes children =>
    let inner := if name = "dl" then folderAfter before else folder
    let own := if name = "a" && (attributes.get? "href").isSome then
        [{ attributes, text := shownTexts children, folder }]
      else []
    own ++ linksIn inner none children

def linksIn (folder : String) (before : Option Node) : List Node → List Link
  | [] => []
  | n :: ns =>
    let next := match n with
      | .text _ _ => before
      | n => some n
    linksOf folder before n ++ linksIn folder next ns

end

/-- The time written in seconds, in UTC. -/
def timeText? (s : String) : Option String := (Numeral.whole? s).bind Instant.utcText?

/-- The bookmark of a link, `now` standing for unknown times; none without an address. -/
def bookmark? (now : String) (l : Link) : Option Bookmark :=
  let attribute_ (name : String) : String := (l.attributes.get? name).getD ""
  let url := Text.trim (attribute_ "href")
  if url = "" then none
  else
    let title := Text.trim l.text
    some
      { title := .str (if title = "" then url else title)
        url := .str url
        description := .str (attribute_ "description")
        tags := Tags.clean [] ((Text.split (attribute_ "tags") ',').map .str)
        folder := .str l.folder
        favicon := .str (attribute_ "icon")
        createdAt := .str ((timeText? (attribute_ "add_date")).getD now)
        updatedAt := .str ((timeText? (attribute_ "last_modified")).getD now) }

/-- Whether a character is a small letter, the case of it and its look-alikes aside. -/
def isLetterOf (letter c : Char) : Bool :=
  (Text.lowerChar c).head? = some letter || (letter = 'i' && c = '\u0131') ||
    (letter = 's' && c = '\u017F')

def startsLike : List Char → List Char → Bool
  | [], _ => true
  | _, [] => false
  | p :: ps, c :: cs => isLetterOf p c && startsLike ps cs

/-- Whether the declaration of a bookmark file starts here. -/
def declaresAt (cs : List Char) : Bool :=
  startsLike "<!doctype".toList cs &&
    match cs.drop 9 with
    | c :: rest =>
      Text.isBlank c && startsLike "netscape-bookmark-file-1>".toList (rest.dropWhile Text.isBlank)
    | [] => false

/-- Whether the declaration of a bookmark file stands anywhere in the text. -/
def declares : List Char → Bool
  | [] => false
  | c :: cs => declaresAt (c :: cs) || declares cs

def rejection (message : String) : Fault :=
  .foreign .other "ParserRejectedMarkup"
    ("The markup you provided was rejected by the parser. Trying a different parser or a " ++
      "different encoding may help.\n\nOriginal error(s) from parser:\n AssertionError: " ++
      message)

/-- The bookmarks of a document, which must declare itself or hold a list. -/
def read (now text : String) : Except Fault (List Bookmark) :=
  match tokens text.toList with
  | .error message => .error (rejection message)
  | .ok ts =>
    let document := nodes ts
    if declares text.toList || anyHolds "dl" document then
      .ok ((linksIn "" none document).filterMap (bookmark? now))
    else .error (.notBookmarks "No bookmark data found (missing DOCTYPE and <DL> elements)")

end LinkShelf.Netscape

import LinkShelf.Bookmark.Timestamp
import LinkShelf.Html.Reference
import LinkShelf.Model.Names
/-!
Writing a Netscape bookmark file: first the bookmarks without a folder, then one list for each
folder in the order in which the folders first come up.
-/
namespace LinkShelf.Netscape

def header (title : String) : List String :=
  ["<!DOCTYPE NETSCAPE-Bookmark-file-1>",
    "<!-- This is an automatically generated file. -->",
    "<!-- DO NOT EDIT! -->",
    "<META HTTP-EQUIV=\"Content-Type\" CONTENT=\"text/html; charset=UTF-8\">",
    "<TITLE>" ++ Html.escape title ++ "</TITLE>",
    "<H1>" ++ Html.escape title ++ "</H1>"]

/-- A field that is written as text; an unset one is empty. -/
def escaped (v : Json) : Except Fault String :=
  if v.truthy then
    match v with
    | .str s => .ok (Html.escape s)
    | v => .error (v.lacks "replace")
  else .ok ""

def seconds (v : Json) : Except Fault String := do
  if v.truthy then
    let x ← Bookmark.timestamp v
    if x.isZero then pure "" else pure (Json.intText (← Json.realAsWhole x))
  else pure ""

def pair (name value : String) : String := name ++ "=\"" ++ value ++ "\""

def optional (name value : String) : List String := if value = "" then [] else [pair name value]

def line (b : Bookmark) : Except Fault String := do
  let url ← escaped b.url
  let added ← seconds b.createdAt
  let modified ← seconds b.updatedAt
  let icon ← escaped b.favicon
  let description ← escaped b.description
  let tags := Html.escape (",".intercalate b.tags)
  let title ← escaped (b.title.orElse b.url)
  pure ("<DT><A " ++ " ".intercalate
    ([pair "HREF" url, pair "ADD_DATE" added, pair "LAST_MODIFIED" modified] ++
      optional "ICON" icon ++ optional "DESCRIPTION" description ++ optional "TAGS" tags) ++
    ">" ++ title ++ "</A>")

/-- Bookmarks by folder, the folders in the order in which they first come up. -/
def addToFolder (b : Bookmark) : List (Json × List Bookmark) → List (Json × List Bookmark)
  | [] => [(b.folder, [b])]
  | (f, bs) :: rest =>
    if f.sameScalar b.folder then (f, bs ++ [b]) :: rest else (f, bs) :: addToFolder b rest

def group (bs : List Bookmark) : Except Fault (List (Json × List Bookmark)) :=
  bs.foldlM (fun groups b =>
    if !b.folder.truthy then .ok groups
    else if b.folder.isCompound then
      .error (.badType ("unhashable type: '" ++ b.folder.typeName ++ "'"))
    else .ok (addToFolder b groups)) []

def section_ (folder : Json) (bs : List Bookmark) : Except Fault (List String) := do
  let label ← escaped folder
  let lines ← bs.mapM line
  pure (["    <DT><H3>" ++ label ++ "</H3>", "    <DL><p>"] ++ lines.map ("        " ++ ·) ++
    ["    </DL><p>"])

def write (title : String) (bs : List Bookmark) : Except Fault String := do
  let groups ← group bs
  let top ← (bs.filter (!·.folder.truthy)).mapM line
  let sections ← groups.mapM fun (folder, bs) => section_ folder bs
  pure ("\n".intercalate (header title ++ ["<DL><p>"] ++ top.map ("    " ++ ·) ++
    sections.flatten ++ ["</DL><p>"]) ++ "\n")

end LinkShelf.Netscape

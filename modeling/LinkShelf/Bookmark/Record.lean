import LinkShelf.Bookmark.Basic
/-!
Bookmarks as records: reading a stored object, building one from loose values, writing it, and
changing some of its fields.
-/
namespace LinkShelf

/-- The last value that an object gives for a field, under either spelling of its name. -/
def Members.field? (ms : Members) (f : Field) : Option Json :=
  (ms.reverse.find? fun m => Field.ofName? m.1 = some f).map (·.2)

def Members.field (ms : Members) (f : Field) : Json := (ms.field? f).getD .null

namespace Bookmark

/-- The text of a value that counts, else the empty one. -/
def textOr (v : Json) : String := (v.orElse (.str "")).text

def build (b : Bookmark) (rating tags status : Json) : Except Fault Bookmark := do
  let rating ← clampRating rating
  let tags ← (tags.orElse (.arr [])).elements
  pure { b with rating, tags := Tags.texts tags, status := .ofJson status }

/-- The rating brought into range and the blank tags left out. -/
def formed (b : Bookmark) : Bookmark :=
  { b with rating := min 5 b.rating, tags := b.tags.filter (!Text.blank ·) }

/-- In form and under an id. -/
def underId (b : Bookmark) (id : String) : Bookmark := { b.formed with id := some id }

/-- Reads a stored object. Names may have either spelling, a missing title is the address, and
tags may be one text with commas. -/
def ofRecord (ms : Members) : Except Fault Bookmark := do
  let url := Text.trim (textOr (ms.field .url))
  let title := Text.trim (textOr (ms.field .title))
  let tags := match (ms.field .tags).orElse (.arr []) with
    | .str s => Tags.ofText s
    | v => v
  let position := match ms.field .position with
    | .int n => Json.int n
    | _ => .null
  let id := ms.field .id
  let tags ← Tags.distinct tags
  build
    { id := if id.isUnset then none else some id.text
      title := .str (if title = "" then url else title)
      url := .str url
      description := .str (textOr (ms.field .description))
      folder := .str (textOr (ms.field .folder))
      favicon := .str (textOr (ms.field .favicon))
      unreachable := .bool (ms.field .unreachable).truthy
      createdAt := (ms.field .createdAt).orElse .null
      updatedAt := (ms.field .updatedAt).orElse .null
      position }
    ((ms.field? .rating).getD (.int 0)) (.arr (tags.map .str))
    ((ms.field .status).orElse (.str UrlStatus.valid.name))

/-- Sets the fields an object names, with the values as they are. -/
def set (b : Bookmark) (ms : Members) : Bookmark :=
  { b with
    title := (ms.field? .title).getD b.title
    url := (ms.field? .url).getD b.url
    description := (ms.field? .description).getD b.description
    folder := (ms.field? .folder).getD b.folder
    favicon := (ms.field? .favicon).getD b.favicon
    unreachable := (ms.field? .unreachable).getD b.unreachable
    createdAt := (ms.field? .createdAt).getD b.createdAt
    updatedAt := (ms.field? .updatedAt).getD b.updatedAt
    position := (ms.field? .position).getD b.position }

/-- A new bookmark with the fields an object gives, each under its plain name. -/
def make (ms : Members) : Except Fault Bookmark :=
  match ms.find? fun m => !(Field.all.any fun f => f.name = m.1) with
  | some (name, _) => .error (.badType ("unexpected field " ++ Json.quoted name))
  | none =>
    build { set {} ms with id := match ms.field .id with
        | .null => none
        | v => some v.text }
      ((ms.field? .rating).getD (.int 0)) (ms.field .tags)
      ((ms.field? .status).getD (.str UrlStatus.valid.name))

def patchedTags (b : Bookmark) (ms : Members) : Except Fault (List Json) :=
  match ms.field? .tags with
  | none => .ok (b.tags.map Json.str)
  | some v =>
    match v.orElse (.arr []) with
    | .str s => (Tags.ofText s).elements
    | v => v.elements

/-- Changes the fields a patch names. The id stays, unknown names are passed over, and tags may
be one text with commas. -/
def patch (b : Bookmark) (ms : Members) : Except Fault Bookmark := do
  let tags ← b.patchedTags ms
  build (b.set ms) ((ms.field? .rating).getD (.int b.rating)) (.arr tags)
    ((ms.field? .status).getD (.str b.status.name))

/-- The stored object of a bookmark. Unset times are empty texts, an unset position is left
out. -/
def record (b : Bookmark) : Members :=
  [("id", (b.id.map Json.str).getD .null), ("title", b.title), ("url", b.url),
    ("description", b.description), ("tags", .arr (b.tags.map .str)), ("rating", .int b.rating),
    ("folderId", b.folder), ("faviconUrl", b.favicon), ("urlStatus", .str b.status.name),
    ("unreachable", b.unreachable), ("createdAt", b.createdAt.orElse (.str "")),
    ("updatedAt", b.updatedAt.orElse (.str ""))] ++
    match b.position with
    | .null => []
    | p => [("position", p)]

def toJson (b : Bookmark) : Json := .obj b.record

end Bookmark

end LinkShelf

import LinkShelf.Fault
import LinkShelf.Number.Numeral
import LinkShelf.Text.Find
import LinkShelf.Text.Lower
/-!
A bookmark. Whatever a patch says goes into a text field unchecked, so these fields hold any JSON
value; tags, rating and status are brought into form whenever a bookmark is built.
-/
namespace LinkShelf

/-- What is known about the address of a bookmark. -/
inductive UrlStatus where
  | valid
  | invalid
  | checking
  | ignored
  | unknown
  deriving DecidableEq, Repr

namespace UrlStatus

def name : UrlStatus → String
  | .valid => "valid"
  | .invalid => "invalid"
  | .checking => "checking"
  | .ignored => "ignored"
  | .unknown => "unknown"

def all : List UrlStatus := [.valid, .invalid, .checking, .ignored, .unknown]

/-- A status by its name in any case; anything else is unknown. -/
def ofJson (v : Json) : UrlStatus :=
  let s := Text.lower (Text.trim v.text)
  (all.find? (·.name = s)).getD .unknown

end UrlStatus

structure Bookmark where
  id : Option String := none
  title : Json := .str ""
  url : Json := .str ""
  description : Json := .str ""
  tags : List String := []
  rating : Nat := 0
  folder : Json := .str ""
  favicon : Json := .str ""
  status : UrlStatus := .valid
  unreachable : Json := .bool false
  createdAt : Json := .null
  updatedAt : Json := .null
  position : Json := .null
  deriving Repr, Inhabited

def ratingNumber : Json → Except Fault Binary64
  | .bool b => .ok (if b then .ofRatio false 1 1 else .zero)
  | .int n => Json.wholeAsReal n
  | .float x => .ok x
  | .str s => .ok ((Numeral.real? s).getD .nan)
  | _ => .ok .nan

/-- A number brought into the range from 0 to 5; what is no number counts as unrated. -/
def clamp : Binary64 → Except Fault Nat
  | .nan => .ok 0
  | x => do pure (min 5 (← Json.realAsWhole x).toNat)

def clampRating (v : Json) : Except Fault Nat := do clamp (← ratingNumber v)

namespace Tags

/-- Trimmed texts without blanks and without a tag already seen in another case. -/
def clean (seen : List String) : List Json → List String
  | [] => []
  | .null :: vs => clean seen vs
  | v :: vs =>
    let s := Text.trim v.text
    let key := Text.lower s
    if s = "" ∨ key ∈ seen then clean seen vs else s :: clean (key :: seen) vs

def distinct (v : Json) : Except Fault (List String) := do
  pure (clean [] (← (v.orElse (.arr [])).elements))

def texts : List Json → List String
  | [] => []
  | .null :: vs => texts vs
  | v :: vs => if Text.blank v.text then texts vs else v.text :: texts vs

def ofText (s : String) : Json := .arr ((Text.split s ',').map .str)

end Tags

/-- The parts of a bookmark that can be asked for by name. -/
inductive Field where
  | id
  | title
  | url
  | description
  | tags
  | rating
  | folder
  | favicon
  | status
  | unreachable
  | createdAt
  | updatedAt
  | position
  deriving DecidableEq, Repr

namespace Field

def all : List Field :=
  [.id, .title, .url, .description, .tags, .rating, .folder, .favicon, .status, .unreachable,
    .createdAt, .updatedAt, .position]

def name : Field → String
  | .id => "id"
  | .title => "title"
  | .url => "url"
  | .description => "description"
  | .tags => "tags"
  | .rating => "rating"
  | .folder => "folder_id"
  | .favicon => "favicon_url"
  | .status => "url_status"
  | .unreachable => "unreachable"
  | .createdAt => "created_at"
  | .updatedAt => "updated_at"
  | .position => "position"

def recordName : Field → String
  | .folder => "folderId"
  | .favicon => "faviconUrl"
  | .status => "urlStatus"
  | .createdAt => "createdAt"
  | .updatedAt => "updatedAt"
  | f => f.name

def ofName? (s : String) : Option Field := all.find? fun f => f.name = s || f.recordName = s

end Field

namespace Bookmark

/-- The value of a field; a missing one is the empty text. -/
def get (b : Bookmark) (f : Field) : Json :=
  let v : Json := match f with
    | .id => (b.id.map Json.str).getD .null
    | .title => b.title
    | .url => b.url
    | .description => b.description
    | .tags => .arr (b.tags.map .str)
    | .rating => .int b.rating
    | .folder => b.folder
    | .favicon => b.favicon
    | .status => .str b.status.name
    | .unreachable => b.unreachable
    | .createdAt => b.createdAt
    | .updatedAt => b.updatedAt
    | .position => b.position
  match v with
  | .null => .str ""
  | v => v

/-- The text of a value the way filters and sorts compare it. -/
def comparedText : Json → String
  | .arr items => ",".intercalate (items.map Json.text)
  | .bool b => if b then "true" else "false"
  | v => v.text

/-- The value of the field of a name; unknown names have the empty text. -/
def named (b : Bookmark) (name : String) : Json :=
  match Field.ofName? name with
  | some f => b.get f
  | none => .str ""

def textOf (b : Bookmark) (name : String) : String := comparedText (b.named name)

/-- The trimmed text of a field that is used as one; an unset field is empty. -/
def trimmed (v : Json) : Except Fault String :=
  if v.truthy then
    match v with
    | .str s => .ok (Text.trim s)
    | v => .error (v.lacks "strip")
  else .ok ""

def effectiveTitle (b : Bookmark) : Except Fault String := do
  let t ← trimmed b.title
  if t = "" then trimmed b.url else pure t

def isValid (b : Bookmark) : Except Fault Bool := do
  if (← trimmed b.url) = "" then pure false else pure ((← b.effectiveTitle) != "")

/-- Unreachable bookmarks show as invalid. -/
def effectiveStatus (b : Bookmark) : UrlStatus :=
  if b.unreachable.truthy then .invalid else b.status

end Bookmark

end LinkShelf

import LinkShelf.Bookmark.Basic
import LinkShelf.Parameter
/-!
Filters on bookmarks. Text is compared without regard to case.
-/
namespace LinkShelf

/-- Bounds on a rating; an exact one stands for both others. -/
structure RatingBounds where
  min : Option Binary64 := none
  max : Option Binary64 := none
  exact : Option Binary64 := none
  deriving Repr

namespace RatingBounds

def rating (n : Nat) : Binary64 := .ofRatio false n 1

def admits (r : RatingBounds) (n : Nat) : Bool :=
  match r.exact with
  | some x => (rating n).same x
  | none =>
    (match r.min with
      | some x => !(rating n).lt x
      | none => true) &&
    (match r.max with
      | some x => !x.lt (rating n)
      | none => true)

/-- Bounds from parameters; the comparator for equality makes a single bound the exact one. -/
def ofParameters (ms : Members) : Except Fault RatingBounds := do
  let min ← Parameter.number (ms.get "minRating")
  let max ← Parameter.number (ms.get "maxRating")
  let exact ← Parameter.number (ms.get "exact")
  let comparator := Text.lower (Text.trim ((ms.get "comparator").orElse (.str "")).text)
  pure { min, max,
         exact := if exact.isNone && comparator = "eq" then min.or max else exact }

end RatingBounds

inductive Filter where
  /-- The term occurs in title, address, description or a tag. -/
  | search (term : String)
  /-- The value occurs in the text of a field. -/
  | contains (field value : String)
  /-- The text of a field, or some tag, starts with the value. -/
  | startsWith (field value : String)
  /-- All tags of one list and none of the other. -/
  | tagged (include_ exclude : List String)
  | rated (bounds : RatingBounds)
  deriving Repr

namespace Filter

def loweredTags (b : Bookmark) : List String := b.tags.map Text.lower

def searchedFields : List String := ["title", "url", "description"]

def admits (f : Filter) (b : Bookmark) : Bool :=
  match f with
  | .search term =>
    let needle := Text.lower term
    needle = "" ||
      searchedFields.any (fun name => Text.contains (Text.lower (b.textOf name)) needle) ||
      (loweredTags b).any (Text.contains · needle)
  | .contains field value => Text.contains (Text.lower (b.textOf field)) (Text.lower value)
  | .startsWith field value =>
    if field = "tags" then (loweredTags b).any (Text.startsWith · (Text.lower value))
    else value = "" || Text.startsWith (Text.lower (b.textOf field)) (Text.lower value)
  | .tagged include_ exclude =>
    (include_.map Text.lower).all (loweredTags b).contains &&
      !(exclude.map Text.lower).any (loweredTags b).contains
  | .rated bounds => bounds.admits b.rating

def apply (f : Filter) (bs : List Bookmark) : List Bookmark := bs.filter f.admits

end Filter

end LinkShelf

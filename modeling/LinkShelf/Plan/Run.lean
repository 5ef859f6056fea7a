import LinkShelf.Filter
import LinkShelf.Plan.Arrange
/-!
Running a plan over a list of bookmarks. A step that cannot be carried out leaves the list as it
is.
-/
namespace LinkShelf

namespace Bookmark

/-- The first or last so many bookmarks; a count below one leaves all. -/
def limit {α : Type} (last : Bool) (count : Int) (bs : List α) : List α :=
  if count ≤ 0 then bs
  else if last then bs.drop (bs.length - count.toNat)
  else bs.take count.toNat

/-- Limit by a loosely written count. -/
def limitBy (last : Bool) (count : Json) (bs : List Bookmark) : Except Fault (List Bookmark) := do
  pure (limit last (← Parameter.count count) bs)

end Bookmark

namespace Step

/-- The field and the value that a step looks for. -/
def fieldAndValue (ps : Members) : Except Fault (String × String) := do
  let field ← Parameter.text (ps.get "field") "title"
  pure (field, ← Parameter.text (ps.get "value") "")

def filter? (a : Action) (ps : Members) : Option (Except Fault Filter) :=
  match a with
  | .searchBookmarks => some do pure (.search (← Parameter.text (ps.get "searchTerm") ""))
  | .findIncludes => some do
    let (field, value) ← fieldAndValue ps
    pure (.contains field value)
  | .findStartsWith => some do
    let (field, value) ← fieldAndValue ps
    pure (.startsWith field value)
  | .findWithTags => some (.ok (.tagged (Parameter.texts (ps.get "includeTags"))
      (Parameter.texts (ps.get "excludeTags"))))
  | .filterByRating => some do pure (.rated (← RatingBounds.ofParameters ps))
  | _ => none

def isText (v : Json) (s : String) : Bool :=
  match v with
  | .str t => t = s
  | _ => false

/-- The list after one action, `source` being the list before the whole plan. -/
def perform (a : Action) (ps : Members) (source current : List Bookmark) :
    Except Fault (List Bookmark) :=
  match filter? a ps with
  | some f => do pure ((← f).apply current)
  | none =>
    match a with
    | .sortBookmarks => Bookmark.sortBy (.ofJson (ps.get "sortBy") (ps.get "order")) current
    | .limitResults =>
      let base := if isText (ps.get "scope") "all" then source else current
      Bookmark.limitBy (isText (ps.get "direction") "last") (ps.get "count") base
    | .limitFirst => Bookmark.limitBy false (ps.get "count") current
    | .limitLast => Bookmark.limitBy true (ps.get "count") current
    | _ => .ok current

/-- Steps without a known view action, and steps that fail, change nothing. -/
def apply (source current : List Bookmark) (s : Step) : List Bookmark :=
  match s.known with
  | none => current
  | some a =>
    match perform a s.parameters source current with
    | .ok bs => bs
    | .error _ => current

end Step

/-- Runs the steps in the given order over the source. -/
def Plan.run (p : Plan) (source : List Bookmark) : List Bookmark :=
  p.foldl (Step.apply source) source

end LinkShelf

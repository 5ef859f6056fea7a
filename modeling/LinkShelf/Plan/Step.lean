import LinkShelf.Json.Basic
import LinkShelf.Fault
import LinkShelf.Text.Find
/-!
Plans are lists of steps. A step names an action, which need not be a known one, and carries
loosely written parameters.
-/
namespace LinkShelf

inductive Action where
  | searchBookmarks
  | findIncludes
  | findStartsWith
  | findWithTags
  | filterByRating
  | sortBookmarks
  | limitResults
  | limitFirst
  | limitLast
  | importBookmarks
  | exportBookmarks
  | resetSearch
  | showAllBookmarks
  | removeDuplicates
  | reorder
  | reorderAscending
  | reorderDescending
  | persistSortedOrder
  | help
  deriving DecidableEq, Repr

namespace Action

def all : List Action :=
  [.searchBookmarks, .findIncludes, .findStartsWith, .findWithTags, .filterByRating,
    .sortBookmarks, .limitResults, .limitFirst, .limitLast, .importBookmarks, .exportBookmarks,
    .resetSearch, .showAllBookmarks, .removeDuplicates, .reorder, .reorderAscending,
    .reorderDescending, .persistSortedOrder, .help]

def name : Action → String
  | .searchBookmarks => "searchBookmarks"
  | .findIncludes => "findIncludes"
  | .findStartsWith => "findStartsWith"
  | .findWithTags => "findWithTags"
  | .filterByRating => "filterByRating"
  | .sortBookmarks => "sortBookmarks"
  | .limitResults => "limitResults"
  | .limitFirst => "limitFirst"
  | .limitLast => "limitLast"
  | .importBookmarks => "importBookmarks"
  | .exportBookmarks => "exportBookmarks"
  | .resetSearch => "resetSearch"
  | .showAllBookmarks => "showAllBookmarks"
  | .removeDuplicates => "removeDuplicates"
  | .reorder => "reorder"
  | .reorderAscending => "reorderAscending"
  | .reorderDescending => "reorderDescending"
  | .persistSortedOrder => "persistSortedOrder"
  | .help => "help"

def ofName? (s : String) : Option Action := all.find? (·.name = s)

/-- Actions that shape the view, as opposed to those that act outside it. -/
def shapesView : Action → Bool
  | .searchBookmarks | .findIncludes | .findStartsWith | .findWithTags | .filterByRating
  | .sortBookmarks | .limitResults | .limitFirst | .limitLast => true
  | _ => false

def resets : Action → Bool
  | .resetSearch | .showAllBookmarks => true
  | _ => false

def savesOrder : Action → Bool
  | .reorder | .reorderAscending | .reorderDescending | .persistSortedOrder => true
  | _ => false

/-- Actions that a saved order makes superfluous. -/
def orders (a : Action) : Bool := a.savesOrder || a = .sortBookmarks

end Action

structure Step where
  action : String
  parameters : Members := []
  priority : Option Binary64 := none
  reasoning : Option String := none
  deriving Repr, Inhabited

abbrev Plan := List Step

namespace Step

def known (s : Step) : Option Action := Action.ofName? s.action

def is (s : Step) (p : Action → Bool) : Bool := s.known.any p

def isSideEffect (s : Step) : Bool := s.is fun a => !a.shapesView

def isReset (s : Step) : Bool := s.is Action.resets

def isPersist (s : Step) : Bool := s.is Action.savesOrder

def isOrdering (s : Step) : Bool := s.is Action.orders

/-- Names that a step object uses for itself. -/
def ownNames : List String := ["action", "parameters", "priority", "reasoning"]

/-- Parameters of a step object: those given as such, then every foreign member not among
them. -/
def parametersOf (ms : Members) : Members :=
  let given := match ms.get "parameters" with
    | .obj ps => ps
    | _ => []
  ms.foldl (fun ps (k, v) => if k ∈ ownNames || Members.has ps k then ps else Members.put k v ps)
    given

/-- A numeric priority. What is no number counts as absent. -/
def priorityOf (v : Json) : Except Fault (Option Binary64) :=
  match v with
  | .int n => do pure (some (← Json.wholeAsReal n))
  | .float .nan => .ok none
  | .float x => .ok (some x)
  | _ => .ok none

/-- Reads a step object; none if its action is no text. -/
def ofMembers (ms : Members) : Except Fault (Option Step) := do
  let priority ← priorityOf (ms.get "priority")
  match ms.get "action" with
  | .str action => pure (some
      { action, parameters := parametersOf ms, priority, reasoning := (ms.get "reasoning").str? })
  | _ => pure none

/-- The object of a step, without the parts that are absent. -/
def toJson (s : Step) : Json :=
  .obj ([("action", .str s.action), ("parameters", .obj s.parameters)] ++
    (s.priority.map fun p => ("priority", Json.float p)).toList ++
    (s.reasoning.map fun r => ("reasoning", Json.str r)).toList)

/-- The search for a text as it is. -/
def search (term : String) (reasoning : Option String) : Step :=
  { action := Action.searchBookmarks.name, parameters := [("searchTerm", .str term)], reasoning }

/-- The step that records a failed request. -/
def failure (message : String) : Step := { action := "error", reasoning := some message }

end Step

namespace Plan

def containsReset (p : Plan) : Bool := p.any Step.isReset

def viewSteps (p : Plan) : Plan := p.filter (!·.isSideEffect)

/-- The plan without the steps that a saved order makes superfluous. -/
def withoutOrdering (p : Plan) : Plan := p.filter (!·.isOrdering)

def actions (p : Plan) : List String := p.map Step.action

end Plan

end LinkShelf

import LinkShelf.Plan.Run
import LinkShelf.Report
import LinkShelf.Store.Order
import LinkShelf.Store.Removal
/-!
One user's session with the agent: the plan that has been stacked up, the collection as it was
last seen, what waits for confirmation, and the shelf itself.
-/
namespace LinkShelf

inductive Level where
  | info
  | success
  | warning
  | error
  deriving DecidableEq, Repr

def Level.name : Level → String
  | .info => "info"
  | .success => "success"
  | .warning => "warning"
  | .error => "error"

structure Message where
  text : String
  level : Level := .info
  deriving DecidableEq, Repr

inductive Event where
  | help
  | exchange (action : String)
  | stage (ids : List String)
  | message (m : Message)
  deriving DecidableEq, Repr

def Event.message? : Event → Option Message
  | .message m => some m
  | _ => none

structure Session where
  shelf : Shelf
  plan : Plan := []
  snapshot : List Bookmark := []
  /-- The number of the newest request. -/
  request : Nat := 0
  /-- The step that records a failed request, until a later one succeeds. -/
  error : Option Step := none
  /-- Ids that wait for the user to confirm their deletion. -/
  pending : List String := []
  attached : Bool := false
  /-- Whether the steps of a request are put after those before it. -/
  stacking : Bool := true
  history : History := {}
  events : List Event := []

namespace Session

abbrev Act := LinkShelf.Act Session

abbrev run {α : Type} (act : Act α) (s : Session) : Except Fault α × Session :=
  LinkShelf.Act.run act s

/-- The collection in the last notice to the agent. -/
def lastHeard (notices : List Notice) : Option (List Bookmark) :=
  ((notices.filter (·.listener = .agent)).getLast?).map (·.collection)

/-- The session after its shelf became another one: an attached agent has heard about it. -/
def withShelf (s : Session) (shelf : Shelf) : Session :=
  let news := shelf.notices.drop s.shelf.notices.length
  { s with shelf, snapshot := (lastHeard news).getD s.snapshot }

/-- An operation on the shelf, of whose notices the agent hears. -/
def onShelf {α : Type} (act : Shelf.Act α) : Act α := do
  let s ← get
  let (r, shelf) := Shelf.run act s.shelf
  set (s.withShelf shelf)
  match r with
  | .ok a => pure a
  | .error f => throw f

def attach (s : Session) : Session :=
  if s.attached then s else { s with attached := true, shelf := s.shelf.subscribe .agent }

def detach (s : Session) : Session :=
  if s.attached then { s with attached := false, shelf := s.shelf.unsubscribe .agent } else s

def withSnapshot (bs : List Bookmark) (s : Session) : Session := { s with snapshot := bs }

/-- A bookmark as the view shows it: an unreachable one is invalid. -/
def shown (b : Bookmark) : Bookmark := { b with status := b.effectiveStatus }

/-- The plan in the order of priorities, run over the snapshot. -/
def view (s : Session) : List Bookmark := (Plan.run (Plan.arrange s.plan) s.snapshot).map shown

def refresh : Act (List Bookmark) := do
  let bs ← onShelf Shelf.list
  modify (withSnapshot bs)
  pure (← get).view

def emit (e : Event) (s : Session) : Session := { s with events := s.events ++ [e] }

def say (text : String) (level : Level) (s : Session) : Session := s.emit (.message ⟨text, level⟩)

def record (f : Fault) (s : Session) : Session := { s with history := s.history.record f }

/-- The plan emptied and nothing staged. -/
def reset (s : Session) : Session := { s with plan := [], error := none, pending := [] }

def cancel (s : Session) : Session := { s with pending := [] }

end Session

end LinkShelf

import LinkShelf.Agent.Session
import LinkShelf.Bookmark.Duplicates
import LinkShelf.Plan.Prompt
import LinkShelf.Plan.Reply
/-!
A request to the agent. It begins by taking a number and ends with the reply of the model, and
between the two other requests may begin and end. A reply counts only while its request is the
newest one; a request that fails falls back to a search for its own words.
-/
namespace LinkShelf

structure Outcome where
  query : String
  steps : Plan := []
  plan : Plan
  view : List Bookmark
  messages : List Message := []
  pending : List String
  error : Option Report := none
  /-- A newer request has been made in the meantime. -/
  stale : Bool := false

namespace Session

def outcome (s : Session) (query : String) : Outcome :=
  { query, plan := s.plan, view := s.view, pending := s.pending }

/-- Replaces the plan, and with it the error. -/
def replacePlan (p : Plan) (s : Session) : Session := { s with plan := p, error := none }

/-- Puts steps after the plan; a reset among them starts afresh. -/
def stackPlan (p : Plan) (s : Session) : Session :=
  s.replacePlan (if Plan.containsReset p then p else s.plan ++ p)

def extendPlan (p : Plan) (s : Session) : Session :=
  if s.stacking then s.stackPlan p else s.replacePlan p

def fallbackReasoning : String := "Fallback search due to agent error."

def fallBack (query message : String) (s : Session) : Session :=
  { s with
    plan := [.search query (some fallbackReasoning)]
    error := some (.failure ("Failed to process request: " ++ message)) }

/-- Finds the duplicates in the view and waits for the user to confirm. -/
def stageDuplicates : Act Unit := do
  match ← Bookmark.duplicates (← get).view with
  | [] => modify (say "No duplicate bookmarks found in the current view." .info)
  | ids =>
    modify ({ · with pending := ids })
    modify (emit (.stage ids))
    modify (say ("Found " ++ toString ids.length ++
      " duplicate bookmark(s). Confirm to delete.") .warning)

/-- The collection after an order was stored. -/
def reload : Act (List Bookmark) :=
  tryCatch (onShelf Shelf.list) fun f => do
    let s ← get
    throw (if f.isStore then f
      else s.shelf.fault .read "Failed to reload bookmarks" (some f))

/-- Stores the order that a step asks for; after that the plan needs no ordering steps. -/
def persistOrder (step : Step) : Act Unit := do
  let c := Plan.criterion step (← get).plan
  let saved ← tryCatch
    (do
      discard (onShelf (Shelf.saveOrder c))
      let bs ← reload
      modify (withSnapshot bs)
      pure true)
    fun f => do
      if !f.isStore then throw f
      modify (record f)
      modify (say "Failed to persist new order." .error)
      pure false
  if saved then
    modify fun s => { s with plan := Plan.withoutOrdering s.plan }
    modify (say ("Reordered " ++ c.describe ++ " and saved.") .success)

/-- What a step does outside the view. -/
def dispatch (step : Step) : Act Unit :=
  match step.known with
  | some .help => modify (emit .help)
  | some .importBookmarks | some .exportBookmarks => modify (emit (.exchange step.action))
  | some .removeDuplicates => stageDuplicates
  | some a => if a.savesOrder then persistOrder step else pure ()
  | none => pure ()

/-- Begins a request, unless it is blank. The number tells it from those after it. -/
def begin (query : String) (s : Session) : Option Nat × Session :=
  if Text.blank query then (none, s)
  else (some (s.request + 1), { s with request := s.request + 1, pending := [] })

theorem begin_blank {s : Session} {query : String} (h : Text.blank query = true) :
    s.begin query = (none, s) := by
  simp only [begin, h, if_true]

theorem begin_filled {s : Session} {query : String} (h : Text.blank query = false) :
    s.begin query =
      (some (s.request + 1), { s with request := s.request + 1, pending := [] }) := by
  simp only [begin, h, Bool.false_eq_true, if_false]

/-- The steps that a reply of the model asks for, in the order of their priorities. -/
def stepsOfReply (reply : Except Fault String) : Except Fault Plan := do
  pure (Plan.arrange (← Reply.plan Reply.defaultDepth (← reply)))

def fail (query : String) (f : Fault) : Act Outcome := do
  let report := Report.ofFault f
  modify (record f)
  modify (fallBack query report.message)
  modify (say report.userMessage .error)
  let s ← get
  pure { s.outcome query with
    steps := s.plan, messages := [⟨report.userMessage, .error⟩], error := some report }

def apply (query : String) (steps : Plan) : Act Outcome := do
  let before := (← get).events.length
  modify (extendPlan steps)
  steps.forM dispatch
  let s ← get
  pure { s.outcome query with
    steps, messages := (s.events.drop before).filterMap Event.message? }

def settle (query : String) (reply : Except Fault String) : Act Outcome :=
  match stepsOfReply reply with
  | .error f => fail query f
  | .ok steps => apply query steps

/-- Ends the request of a number, unless a newer one was made in the meantime. -/
def finish (number : Nat) (query : String) (reply : Except Fault String) : Act Outcome := do
  let s ← get
  if s.request ≠ number then pure { s.outcome query with stale := true }
  else settle query reply

/-- A request and its reply with nothing in between; a blank one changes nothing. -/
def submit (query : String) (reply : Except Fault String) : Act Outcome := do
  let (number, s) := (← get).begin query
  set s
  match number with
  | none => pure (s.outcome query)
  | some n => finish n query reply

end Session

end LinkShelf

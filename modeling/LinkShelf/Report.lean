import LinkShelf.Fault
/-!
How failures are reported: each has a kind, a weight and a sentence for the user, and a history
counts them and remembers the latest.
-/
namespace LinkShelf

inductive Category where
  | plan
  | model
  | modelKey
  | modelLimit
  | network
  | store
  | exchange
  | configuration
  | unknown
  deriving DecidableEq, Repr

def Category.name : Category → String
  | .plan => "plan"
  | .model => "model"
  | .modelKey => "model_auth"
  | .modelLimit => "model_limit"
  | .network => "network"
  | .store => "repository"
  | .exchange => "import_export"
  | .configuration => "configuration"
  | .unknown => "unknown"

inductive Severity where
  /-- Made good on the spot. -/
  | low
  /-- Something was skipped. -/
  | medium
  /-- The stored state may need attention. -/
  | high
  deriving DecidableEq, Repr

def Severity.name : Severity → String
  | .low => "low"
  | .medium => "medium"
  | .high => "high"

structure Report where
  category : Category
  severity : Severity
  message : String
  userMessage : String
  deriving DecidableEq, Repr

namespace Report

def generalSearch : String := "Performing a general search instead."

def parts (f : Fault) : Category × Severity × String :=
  let message := f.message
  let unknown := (Category.unknown, Severity.medium, "Unexpected error: " ++ message)
  match f with
  | .plan _ =>
    (.plan, .low, "The agent response could not be understood. " ++ generalSearch)
  | .model .authentication .. =>
    (.modelKey, .medium, "Failed to process request via LLM: " ++ message ++
      ". Check the API key is set in the options.")
  | .model .rateLimit .. =>
    (.modelLimit, .medium, "The LLM provider is rate limiting requests: " ++ message ++ ". " ++
      generalSearch)
  | .model .. =>
    (.model, .medium, "Failed to process request via LLM: " ++ message ++ ". " ++ generalSearch)
  | .store _ text .. => (.store, .high, "Failed to save changes: " ++ text)
  | .exchange _ | .notBookmarks _ => (.exchange, .medium, "Import/export failed: " ++ message)
  | .configuration _ => (.configuration, .high, "Configuration error: " ++ message)
  | .foreign family .. =>
    match family with
    | .transport | .timeout | .connection =>
      (.network, .medium, "Network error: " ++ message ++ ".")
    | _ => unknown
  | .general _ => unknown

def ofFault (f : Fault) : Report :=
  let (category, severity, userMessage) := parts f
  { category, severity, message := f.message, userMessage }

end Report

/-- The failures so far: how many of each category, in order of first appearance, and the latest
ones. -/
structure History where
  counts : List (Category × Nat) := []
  recent : List Report := []
  deriving DecidableEq, Repr

namespace History

def maxRecent : Nat := 50

/-- How many of the latest messages a summary shows. -/
def shownRecent : Nat := 5

def latest {α : Type} (n : Nat) (xs : List α) : List α := xs.drop (xs.length - n)

def count (c : Category) : List (Category × Nat) → List (Category × Nat)
  | [] => [(c, 1)]
  | (d, n) :: rest => if d = c then (d, n + 1) :: rest else (d, n) :: count c rest

def add (h : History) (r : Report) : History :=
  { counts := count r.category h.counts, recent := latest maxRecent (h.recent ++ [r]) }

def record (h : History) (f : Fault) : History := h.add (.ofFault f)

def total (h : History) : Nat := h.counts.foldl (fun n count => n + count.2) 0

def messages (h : History) : List String := (latest shownRecent h.recent).map (·.message)

end History

end LinkShelf

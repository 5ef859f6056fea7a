import LinkShelf.Act
import LinkShelf.Json.Reader
/-!
The line to a model server: requests go out, answers or failures come back, and waits take time.
All three are data, so a run is determined by what the server and the clock say.
-/
namespace LinkShelf

inductive Method where
  | get
  | post
  deriving DecidableEq, Repr

def Method.name : Method → String
  | .get => "GET"
  | .post => "POST"

structure Request where
  method : Method
  url : String
  parameters : List (String × String) := []
  headers : List (String × String) := []
  body : Option Json := none
  deriving Repr

inductive Body where
  | json (v : Json)
  | text (s : String)
  deriving Repr

/-- The value of a body; a mark of the byte order in front of it is passed over. -/
def Body.value : Body → Except Json.SyntaxError Json
  | .json v => .ok v
  | .text s =>
    match s.toList with
    | '\uFEFF' :: cs => Json.parse (.ofList cs)
    | _ => Json.parse s

structure Response where
  status : Int := 200
  body : Body
  deriving Repr

/-- A line whose times are doubles, or other numbers. -/
structure Wire (τ : Type := Binary64) where
  /-- What each request in turn is met with. -/
  answers : Nat → Except Fault Response
  /-- What the clock shows at each wait in turn. -/
  clock : Nat → τ
  requests : List Request := []
  waits : List τ := []
  requestCount : Nat := 0
  errorCount : Nat := 0
  retryCount : Nat := 0

namespace Wire

variable {τ : Type}

abbrev Act := LinkShelf.Act Wire

abbrev run {α : Type} (act : Act α) (w : Wire) : Except Fault α × Wire := LinkShelf.Act.run act w

def isAscii (s : String) : Bool := s.toList.all (·.toNat < 128)

/-- Sends a request and takes what comes back. Headers are ASCII. -/
def send (r : Request) : LinkShelf.Act (Wire τ) Response := do
  modify fun w => { w with requestCount := w.requestCount + 1 }
  if r.headers.any fun h => !isAscii h.2 then
    throw (.foreign .badValue "UnicodeEncodeError" "ordinal not in range(128)")
  let w ← get
  set { w with requests := w.requests ++ [r] }
  w.answers w.requests.length

def countError (w : Wire τ) : Wire τ := { w with errorCount := w.errorCount + 1 }

def wait (time : τ) (w : Wire τ) : Wire τ :=
  { w with retryCount := w.retryCount + 1, waits := w.waits ++ [time] }

end Wire

end LinkShelf

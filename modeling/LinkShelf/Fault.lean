import LinkShelf.Json.Display
/-!
What can go wrong, as causes, with the one place where each is put into words.
-/
namespace LinkShelf

inductive ModelFault where
  | request
  | rateLimit
  | authentication
  | unavailable
  deriving DecidableEq, Repr

inductive StoreFault where
  | general
  | read
  | write
  | missing
  deriving DecidableEq, Repr

/-- Families of failures that the library meets but does not define. -/
inductive Family where
  /-- A request that got no complete answer. -/
  | transport
  /-- Any other failure of the HTTP layer. -/
  | http
  /-- A reachability check that got no answer. -/
  | reach
  | timeout
  | connection
  | system
  | unsupported
  | badType
  | badValue
  | badAttribute
  | overflow
  | other
  deriving DecidableEq, Repr

inductive Fault where
  | general (message : String)
  | configuration (message : String)
  | plan (message : String)
  | model (kind : ModelFault) (message : String) (provider : Option String) (status : Option Int)
  | store (kind : StoreFault) (text : String) (source : Option String) (cause : Option Fault)
  | exchange (message : String)
  | notBookmarks (message : String)
  | foreign (family : Family) (name : String) (message : String)
  deriving Repr, Inhabited

def ModelFault.name : ModelFault → String
  | .request => "ModelRequestError"
  | .rateLimit => "RateLimitError"
  | .authentication => "AuthenticationError"
  | .unavailable => "ServiceUnavailableError"

def StoreFault.name : StoreFault → String
  | .general => "RepositoryError"
  | .read => "RepositoryReadError"
  | .write => "RepositoryWriteError"
  | .missing => "BookmarkNotFoundError"

namespace Fault

def name : Fault → String
  | .general _ => "BookmarkAgentError"
  | .configuration _ => "ConfigurationError"
  | .plan _ => "PlanParseError"
  | .model kind .. => kind.name
  | .store kind .. => kind.name
  | .exchange _ => "ImportExportError"
  | .notBookmarks _ => "HTMLStructureError"
  | .foreign _ name _ => name

def message : Fault → String
  | .general m | .configuration m | .plan m | .exchange m | .notBookmarks m => m
  | .model _ m _ _ => m
  | .foreign _ _ m => m
  | .store _ text source cause =>
    let source := match source with
      | some s => if s = "" then [] else ["[" ++ s ++ "]"]
      | none => []
    let cause := match cause with
      | some c => ["(Caused by: " ++ c.name ++ ": " ++ c.message ++ ")"]
      | none => []
    " ".intercalate (source ++ text :: cause)

def overflow (message : String) : Fault := .foreign .overflow "OverflowError" message

def badType (message : String) : Fault := .foreign .badType "TypeError" message

def badValue (message : String) : Fault := .foreign .badValue "ValueError" message

def badAttribute (message : String) : Fault := .foreign .badAttribute "AttributeError" message

def unsupported (message : String) : Fault :=
  .foreign .unsupported "NotImplementedError" message

/-- A failed file operation with its number, reason and path. -/
def system (name : String) (number : Nat) (reason path : String) : Fault :=
  .foreign .system name
    ("[Errno " ++ toString number ++ "] " ++ reason ++ ": " ++ Json.quoted path)

/-- The library's own failures, as opposed to those it meets. -/
def isOwn : Fault → Bool
  | .foreign .. => false
  | _ => true

def isStore : Fault → Bool
  | .store .. => true
  | _ => false

/-- Failures of a store write, a missing bookmark among them. -/
def isStoreWrite : Fault → Bool
  | .store .write .. | .store .missing .. => true
  | _ => false

def family? : Fault → Option Family
  | .foreign f .. => some f
  | _ => none

end Fault

namespace Json

/-- The word a message uses for the type of a value. -/
def typeName : Json → String
  | .null => "NoneType"
  | .bool _ => "bool"
  | .int _ => "int"
  | .float _ => "float"
  | .str _ => "str"
  | .arr _ => "list"
  | .obj _ => "dict"

def lacks (v : Json) (name : String) : Fault :=
  .badAttribute ("'" ++ v.typeName ++ "' object has no attribute '" ++ name ++ "'")

/-- The values one meets when going through a value: items, characters or names. -/
def elements (v : Json) : Except Fault (List Json) :=
  match v with
  | .arr items => .ok items
  | .str s => .ok (s.toList.map fun c => .str (.ofList [c]))
  | .obj ms => .ok (ms.map fun m => .str m.1)
  | v => .error (.badType ("'" ++ v.typeName ++ "' object is not iterable"))

/-- A whole number as a double. -/
def wholeAsReal (n : Int) : Except Fault Binary64 :=
  (Binary64.ofInt? n).elim (.error (.overflow "int too large to convert to float")) .ok

/-- A double as a whole number, toward zero. -/
def realAsWhole (x : Binary64) : Except Fault Int :=
  match x with
  | .nan => .error (.badValue "cannot convert float NaN to integer")
  | .infinite _ => .error (.overflow "cannot convert float infinity to integer")
  | .finite s u => .ok (if s then -(u / Binary64.oneUnits : Nat) else (u / Binary64.oneUnits : Nat))

end Json

end LinkShelf

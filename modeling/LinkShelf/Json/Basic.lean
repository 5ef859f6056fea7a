import LinkShelf.Number.Binary64
/-!
JSON values. Members keep the order in which their names first came; whole numbers and doubles
are different values.
-/
namespace LinkShelf

inductive Json where
  | null
  | bool (b : Bool)
  | int (n : Int)
  | float (x : Binary64)
  | str (s : String)
  | arr (items : List Json)
  | obj (members : List (String × Json))
  deriving Repr, Inhabited

abbrev Members := List (String × Json)

namespace Members

def get? (ms : Members) (name : String) : Option Json := ms.lookup name

/-- The value of a name, a missing one reading as null. -/
def get (ms : Members) (name : String) : Json := (ms.get? name).getD .null

def has (ms : Members) (name : String) : Bool := (ms.get? name).isSome

/-- Sets a name, in place if it is there and at the end otherwise. -/
def put (name : String) (v : Json) : Members → Members
  | [] => [(name, v)]
  | (k, w) :: ms => if k = name then (name, v) :: ms else (k, w) :: put name v ms

end Members

namespace Json

/-- Null, false, zero and whatever is empty count as false. -/
def truthy : Json → Bool
  | .null => false
  | .bool b => b
  | .int n => n != 0
  | .float x => !x.isZero
  | .str s => s != ""
  | .arr items => !items.isEmpty
  | .obj ms => !ms.isEmpty

/-- The value itself if it counts as true, else the other one. -/
def orElse (v other : Json) : Json := if v.truthy then v else other

def get? (v : Json) (name : String) : Option Json :=
  match v with
  | .obj ms => Members.get? ms name
  | _ => none

def at? (v : Json) (i : Nat) : Option Json :=
  match v with
  | .arr items => items[i]?
  | _ => none

def str? : Json → Option String
  | .str s => some s
  | _ => none

/-- Null or the empty text. -/
def isUnset : Json → Bool
  | .null => true
  | .str s => s = ""
  | _ => false

end Json

end LinkShelf

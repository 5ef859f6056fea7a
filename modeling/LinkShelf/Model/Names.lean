import LinkShelf.Fault
/-!
Lists of model names as servers give them, where anything may stand for a name.
-/
namespace LinkShelf

namespace Json

/-- A value that counts as a number: whole ones in units of the smallest double. -/
def units? : Json → Option Int
  | .bool b => some (if b then Binary64.oneUnits else 0)
  | .int n => some (n * Binary64.oneUnits)
  | .float (.finite s u) => some (Binary64.signed s u)
  | _ => none

/-- Equality of simple values; numbers are equal across their kinds. -/
def sameScalar (v w : Json) : Bool :=
  match v, w with
  | .str s, .str t => s = t
  | .null, .null => true
  | .float (.infinite s), .float (.infinite t) => s = t
  | v, w =>
    match v.units?, w.units? with
    | some x, some y => x = y
    | _, _ => false

/-- Lists and objects cannot be compared by their contents. -/
def isCompound : Json → Bool
  | .arr _ | .obj _ => true
  | _ => false

/-- The values that count, each once and in order; a list or an object among them is a fault. -/
def distinctAfter (seen : List Json) : List Json → Except Fault (List Json)
  | [] => .ok []
  | v :: vs =>
    if !v.truthy then distinctAfter seen vs
    else if v.isCompound then .error (.badType ("unhashable type: '" ++ v.typeName ++ "'"))
    else if seen.any (sameScalar v) then distinctAfter seen vs
    else do pure (v :: (← distinctAfter (v :: seen) vs))

def distinct (vs : List Json) : Except Fault (List Json) := distinctAfter [] vs

def isNaN : Json → Bool
  | .float .nan => true
  | _ => false

/-- All that is written as NaN in one text is read as one value, the same as itself though equal to
nothing. -/
def oneNaN : List Json → List Json
  | [] => []
  | v :: vs => if v.isNaN then v :: vs.filter (!·.isNaN) else v :: oneNaN vs

end Json

end LinkShelf

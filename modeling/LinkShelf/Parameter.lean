import LinkShelf.Fault
import LinkShelf.Number.Numeral
import LinkShelf.Text.Trim
/-!
Reading loosely written parameters: numbers, counts, texts and lists of texts.
-/
namespace LinkShelf.Parameter

/-- A number, which a text may write; truth values are no numbers. -/
def number (v : Json) : Except Fault (Option Binary64) :=
  match v with
  | .int n => do pure (some (← Json.wholeAsReal n))
  | .float x => .ok (some x)
  | .str s => .ok (Numeral.real? (Text.trim s))
  | _ => .ok none

/-- A count, toward zero; what is no number counts as zero. -/
def count (v : Json) : Except Fault Int := do
  match ← number v with
  | none | some .nan => pure 0
  | some x => Json.realAsWhole x

/-- A list of texts, a text alone being a list of one; blank ones are left out. -/
def texts (v : Json) : List String :=
  match v with
  | .str s => if Text.blank s then [] else [s]
  | .arr items => items.filterMap fun v =>
    match v with
    | .null => none
    | v => if Text.blank v.text then none else some v.text
  | _ => []

/-- A text with a default; lists and objects are no texts. -/
def text (v : Json) (default_ : String) : Except Fault String :=
  if v.isUnset then .ok default_
  else match v with
    | .arr _ | .obj _ => .error (.badType ("expected text, got " ++ v.typeName))
    | v => .ok v.text

end LinkShelf.Parameter

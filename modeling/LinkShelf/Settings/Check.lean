import LinkShelf.Fault
import LinkShelf.Number.Numeral
import LinkShelf.Text.Find
import LinkShelf.Text.Lower
/-!
Checking loosely written values against what a setting takes. All that is wrong is found, not
just the first of it.
-/
namespace LinkShelf

/-- A value, or the lines that say what is wrong. -/
abbrev Checked := Except (List String)

namespace Checked

/-- Applies a checked function to a checked value; what is wrong with either is kept. -/
def app {α β : Type} (f : Checked (α → β)) (x : Checked α) : Checked β :=
  match f, x with
  | .ok f, .ok a => .ok (f a)
  | .ok _, .error e => .error e
  | .error e, .ok _ => .error e
  | .error e, .error e' => .error (e ++ e')

/-- One line about a setting, which is named from the outermost section on. -/
def complaint (place : List String) (text : String) : String :=
  "  - " ++ (if place.isEmpty then "Configuration" else " -> ".intercalate place) ++ ": " ++ text

def complain {α : Type} (place : List String) (text : String) : Checked α :=
  .error [complaint place text]

/-- The checked value of a name, or what stood before where it is not given. -/
def replacing {α : Type} (ms : Members) (name : String) (before : α)
    (check : List String → Json → Checked α) (place : List String) : Checked α :=
  match Members.get? ms name with
  | some v => check (place ++ [name]) v
  | none => .ok before

/-- A text trimmed and changed; anything else stays. -/
def normalized (f : String → String) : Json → Json
  | .str s => .str (f (Text.trim s))
  | v => v

/-- Words as alternatives: quoted, with commas, and with "or" before the last. -/
def alternatives : List String → String
  | [] => ""
  | [s] => "'" ++ s ++ "'"
  | [s, t] => "'" ++ s ++ "' or '" ++ t ++ "'"
  | s :: rest => "'" ++ s ++ "', " ++ alternatives rest

/-- One of several words. -/
def oneOf {α : Type} (place : List String) (named : List (String × α)) (v : Json) : Checked α :=
  match v.str?.bind fun s => named.lookup s with
  | some a => .ok a
  | none => complain place
      ("Must be one of " ++ alternatives (named.map (·.1)) ++ " (got: " ++ v.text ++ ")")

def text (place : List String) : Json → Checked String
  | .str s => .ok s
  | _ => complain place "Input should be a valid string"

/-- A text or nothing. -/
def optionalText (place : List String) : Json → Checked (Option String)
  | .null => .ok none
  | v => (text place v).map some

def section_ (place : List String) (kind : String) : Json → Checked Members
  | .obj ms => .ok ms
  | _ => complain place ("Input should be a valid dictionary or instance of " ++ kind)

/-- Words that mean yes or no. -/
def truthWords : List (String × Bool) :=
  [("0", false), ("off", false), ("f", false), ("false", false), ("n", false), ("no", false),
    ("1", true), ("on", true), ("t", true), ("true", true), ("y", true), ("yes", true)]

def asciiLower (s : String) : String := .ofList (s.toList.map Char.toLower)

/-- The largest count that a machine word holds. -/
def maxWord : Nat := 2 ^ 63

def isWholeWord : Binary64 → Bool
  | .finite _ u => u % Binary64.oneUnits = 0 && u < maxWord * Binary64.oneUnits
  | _ => false

def truthOf (v : Json) : Except String Bool :=
  let unclear := .error "Input should be a valid boolean, unable to interpret input"
  let wrong := .error "Input should be a valid boolean"
  match v with
  | .bool b => .ok b
  | .int 0 => .ok false
  | .int 1 => .ok true
  | .int n => if n.natAbs < maxWord then unclear else wrong
  | .float x =>
    if isWholeWord x then
      match x.toInt? with
      | some 0 => .ok false
      | some 1 => .ok true
      | _ => unclear
    else wrong
  | .str s =>
    match truthWords.lookup (asciiLower s) with
    | some b => .ok b
    | none => unclear
  | _ => wrong

def truth (place : List String) (v : Json) : Checked Bool :=
  match truthOf v with
  | .ok b => .ok b
  | .error e => complain place e

/-- Underscores only between digits. -/
def withoutUnderscores (cs : List Char) : Option (List Char) :=
  (Numeral.dropUnderscores false cs).bind fun ds => if ds.contains '_' then none else some ds

/-- A whole number in ASCII digits, a fraction of zeros being passed over. -/
def wholeText? (s : String) : Option Int :=
  let (negative, rest) := Numeral.sign (Text.trim s).toList
  let (digits, fraction) := (rest.takeWhile (· != '.'), (rest.dropWhile (· != '.')).drop 1)
  if !fraction.all (· = '0') then none
  else
    match withoutUnderscores digits with
    | some (c :: cs) =>
      if (c :: cs).all Char.isDigit then
        let n := Text.ofDigits 10 ((c :: cs).map fun c => c.toNat - 48)
        some (if negative then -n else n)
      else none
    | _ => none

def wholeOf (v : Json) : Except String Int :=
  match v with
  | .int n => .ok n
  | .bool b => .ok (if b then 1 else 0)
  | .float x =>
    match x.toInt? with
    | none => .error "Input should be a finite number"
    | some n =>
      if isWholeWord x then .ok n
      else if (x.same (x.sub x.modOne)) then
        .error "Unable to parse input string as an integer, exceeded maximum size"
      else .error "Input should be a valid integer, got a number with a fractional part"
  | .str s =>
    match wholeText? s with
    | some n => .ok n
    | none => .error "Input should be a valid integer, unable to parse string as an integer"
  | _ => .error "Input should be a valid integer"

def outside {α : Type} (place : List String) (relation : String) (v : Json) : Checked α :=
  complain place ("Value must be " ++ relation ++ " (got: " ++ v.text ++ ")")

/-- A whole number between two bounds. -/
def whole (place : List String) (low high : Int) (v : Json) : Checked Int :=
  match wholeOf v with
  | .error e => complain place e
  | .ok n =>
    if high < n then outside place ("<= " ++ Json.intText high) v
    else if n < low then outside place (">= " ++ Json.intText low) v
    else .ok n

def realOf (v : Json) : Except String Binary64 :=
  let wrong := .error "Input should be a valid number"
  match v with
  | .float x => .ok x
  | .int n =>
    match Binary64.ofInt? n with
    | some x => .ok x
    | none => wrong
  | .bool b => .ok (.ofRatio false (if b then 1 else 0) 1)
  | .str s =>
    match Numeral.real? s with
    | some x => .ok x
    | none => .error "Input should be a valid number, unable to parse string as a number"
  | _ => wrong

/-- A number above zero and up to a limit. -/
def positive (place : List String) (limit : Binary64) (v : Json) : Checked Binary64 :=
  match realOf v with
  | .error e => complain place e
  | .ok x =>
    if !x.le limit then outside place ("<= " ++ limit.text) v
    else if !Binary64.zero.lt x then outside place ("> " ++ Binary64.zero.text) v
    else .ok x

end Checked

end LinkShelf

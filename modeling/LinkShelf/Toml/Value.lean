import LinkShelf.Json.Display
import LinkShelf.Number.Numeral
import LinkShelf.Text.Find
import LinkShelf.Text.Lower
import LinkShelf.Time.Calendar
import LinkShelf.Toml.Line
/-!
The values of a TOML document as JSON values. Dates and times mean nothing to the settings; each
is kept as a list of its text, which no setting takes.
-/
namespace LinkShelf.Toml

abbrev Reading := Except String

/-- The kinds of values that a list may not mix. -/
inductive Kind where
  | bool
  | text
  | whole
  | real
  | list
  | table
  | moment
  deriving DecidableEq, Repr

def escapes : List (Char × Char) :=
  [('0', '\x00'), ('b', '\x08'), ('f', '\x0c'), ('n', '\n'), ('r', '\r'), ('t', '\t'),
    ('"', '"'), ('\\', '\\')]

/-- The character of a code in hexadecimal digits. -/
def ofHex? (cs : List Char) : Option Char :=
  (cs.mapM Text.hexDigit?).bind fun ds =>
    let n := Text.ofDigits 16 ds
    if n.isValidChar then some (Char.ofNat n) else none

def badEscape (mark : Char) (cs : List Char) : Reading (List Char) :=
  .error (.ofList ("Invalid escape sequence: \\".toList ++ mark :: cs))

def unescape : List Char → Reading (List Char)
  | '\\' :: 'u' :: a :: b :: c :: d :: cs =>
    match ofHex? [a, b, c, d] with
    | some x => (unescape cs).map (x :: ·)
    | none => badEscape 'u' [a, b, c, d]
  | '\\' :: 'U' :: a :: b :: c :: d :: e :: f :: g :: h :: cs =>
    match ofHex? [a, b, c, d, e, f, g, h] with
    | some x => (unescape cs).map (x :: ·)
    | none => badEscape 'U' [a, b, c, d, e, f, g, h]
  | '\\' :: c :: cs =>
    match escapes.lookup c with
    | some x => (unescape cs).map (x :: ·)
    | none => .error "Reserved escape sequence used"
  | c :: cs => (unescape cs).map (c :: ·)
  | [] => .ok []

/-- What stands before the closing quote, and what follows it. -/
def cutQuote (q : Char) (held : Bool) : List Char → List Char × List Char
  | [] => ([], [])
  | c :: cs =>
    if c = q && !held then ([], cs)
    else
      let (inside, after) := cutQuote q (q = '"' && c = '\\' && !held) cs
      (c :: inside, after)

/-- A long text without the line breaks that a backslash holds. -/
def joinLines : Nat → List Char → List Char
  | 0, cs => cs
  | _ + 1, [] => []
  | n + 1, '\\' :: '\n' :: cs => joinLines n (cs.dropWhile Text.isBlank)
  | n + 1, '\\' :: c :: cs => '\\' :: c :: joinLines n cs
  | n + 1, c :: cs => c :: joinLines n cs

def quoted (q : Char) (cs : List Char) : Reading Json :=
  let plain (inside : List Char) : Reading Json :=
    if q = '"' then do pure (.str (.ofList (← unescape inside)))
    else .ok (.str (.ofList inside))
  match cs with
  | c :: d :: rest =>
    if c = q && d = q then
      let body := rest.take (rest.length - 3)
      let body := match body with
        | '\n' :: body => body
        | body => body
      plain (if q = '"' then joinLines body.length body else body)
    else
      match cutQuote q false cs with
      | (inside, []) => plain inside
      | _ => .error "Found tokens after a closed string. Invalid TOML."
  | cs => plain (cutQuote q false cs).1

/-- Digits of a whole number in some base. -/
def inBase (base : Nat) (cs : List Char) : Option Nat :=
  match cs with
  | [] => none
  | cs => (cs.mapM Text.hexDigit?).bind fun ds =>
      if ds.all (· < base) then some (Text.ofDigits base ds) else none

/-- A whole number; a zero does not lead other digits. -/
def natural? (cs : List Char) : Option Nat :=
  match cs with
  | '0' :: 'x' :: rest | '0' :: 'X' :: rest => inBase 16 rest
  | '0' :: 'o' :: rest | '0' :: 'O' :: rest => inBase 8 rest
  | '0' :: 'b' :: rest | '0' :: 'B' :: rest => inBase 2 rest
  | '0' :: rest => if rest.all (· = '0') then some 0 else none
  | cs => inBase 10 cs

def isReal (cs : List Char) : Bool :=
  cs.contains '.' || (!cs.contains 'x' && (cs.contains 'e' || cs.contains 'E')) ||
    ["inf", "nan"].contains (Text.lower (.ofList cs))

def number (cs : List Char) : Reading (Json × Kind) := do
  let (negative, cs) := Numeral.sign cs
  let cs := cs.filter (· ≠ '_')
  let shown := Json.quoted (.ofList cs)
  if isReal cs then
    if cs.contains '.' && (cs.dropWhile (· ≠ '.')).length = 1 then
      throw "This float is missing digits after the point"
    if cs.contains '.' && !(cs.head?.any Char.isDigit) then
      throw "This float doesn't have a leading digit"
    match Numeral.real? (.ofList cs) with
    | some x => pure (.float (if negative then Binary64.zero.sub x else x), .real)
    | none => throw ("could not convert string to float: " ++ shown)
  else
    match natural? cs with
    | some n => pure (.int (if negative then -n else n), .whole)
    | none => throw ("invalid literal for int() with base 0: " ++ shown)

/-- Whether some characters are so many digits each, with the given marks between. -/
def follows : List (Nat × Char) → List Char → Bool
  | [], _ => true
  | (n, mark) :: rest, cs =>
    let digits := cs.take n
    digits.length = n && digits.all Char.isDigit && (cs.drop n).head? = some mark &&
      follows rest (cs.drop (n + 1))

def digitsAt (cs : List Char) (start n : Nat) : Nat :=
  Text.ofDigits 10 (((cs.drop start).take n).map fun c => c.toNat - 48)

def isDate (cs : List Char) : Bool :=
  follows [(4, '-'), (2, '-')] cs && ((cs.drop 8).take 2).all Char.isDigit &&
    decide (Date.Valid ⟨digitsAt cs 0 4, digitsAt cs 5 2, digitsAt cs 8 2⟩) &&
    (cs.length = 10 || cs.length ≥ 19)

def isTime (cs : List Char) : Bool := follows [(2, ':'), (2, ':')] cs

/-- The parts of a list or table between its commas, those inside of texts and brackets aside. -/
def splitParts (quote : Option Char) (held : Bool) (depth : Nat) (current : List Char) :
    List Char → List (List Char)
  | [] => [current.reverse]
  | c :: cs =>
    match quote with
    | some q =>
      splitParts (if c = q && !held then none else quote) (q = '"' && c = '\\' && !held) depth
        (c :: current) cs
    | none =>
      if Scan.isQuote c then splitParts (some c) false depth (c :: current) cs
      else if c = '[' || c = '\x7b' then splitParts none false (depth + 1) (c :: current) cs
      else if c = ']' || c = '\x7d' then splitParts none false (depth - 1) (c :: current) cs
      else if c = ',' && depth = 0 then current.reverse :: splitParts none false depth [] cs
      else splitParts none false depth (c :: current) cs

/-- The parts inside of brackets; the last comma may be followed by nothing. -/
def partsOf (cs : List Char) : List (List Char) :=
  let parts := (splitParts none false 0 [] ((cs.drop 1).dropLast)).map Text.trimChars
  match parts.reverse with
  | [] :: rest => rest.reverse
  | _ => parts

/-- The key and the value of a pair: the first sign of equality outside of a text divides them. -/
def cutPair (quote : Option Char) : List Char → Option (List Char × List Char)
  | [] => none
  | c :: cs =>
    match quote with
    | some q =>
      (cutPair (if c = q then none else quote) cs).map fun (k, v) => (c :: k, v)
    | none =>
      if c = '=' then some ([], cs)
      else (cutPair (if Scan.isQuote c then some c else none) cs).map fun (k, v) => (c :: k, v)

/-- The names of a dotted key. -/
def keyParts (quote : Option Char) (current : List Char) : List Char → List (List Char)
  | [] => [current.reverse]
  | c :: cs =>
    match quote with
    | some q => keyParts (if c = q then none else quote) (c :: current) cs
    | none =>
      if c = '.' then current.reverse :: keyParts none [] cs
      else keyParts (if Scan.isQuote c then some c else none) (c :: current) cs

def nameOf (cs : List Char) : String :=
  let cs := Text.trimChars cs
  match cs with
  | c :: rest =>
    if Scan.isQuote c && cs.length > 1 && cs.getLast? = some c then
      let inside := rest.dropLast
      .ofList (match unescape inside with
        | .ok s => s
        | .error _ => inside)
    else .ofList cs
  | [] => ""

/-- The names of a key; ends without a name are passed over. -/
def namesOf (key : List Char) : List String :=
  let names := (keyParts none [] key).map nameOf
  match (names.reverse.dropWhile (· = "")).reverse with
  | [] => [""]
  | names => names.dropLast.filter (· ≠ "") ++ names.getLast?.toList

/-- Puts a value under a dotted name that is not taken yet. -/
def insert (v : Json) : List String → Members → Reading Members
  | [], ms => .ok ms
  | [k], ms => if ms.has k then .error "Duplicate keys!" else .ok (ms.put k v)
  | k :: ks, ms => do
    match ms.get? k with
    | none => pure (ms.put k (.obj (← insert v ks [])))
    | some (.obj inner) => pure (ms.put k (.obj (← insert v ks inner)))
    | some _ => throw "Duplicate keys!"

/-- Whether what follows the sign of equality at once can be a value at all. -/
def startsWell (v : List Char) : Bool :=
  match v with
  | [] => true
  | c :: _ =>
    Text.isBlank c || Scan.isQuote c || c = '[' || c = '\x7b' ||
      ["true", "false"].contains (Text.trim (.ofList v)) ||
      (Numeral.real? (.ofList v)).isSome || isDate v || isTime v

def isTrue (cs : List Char) (word : String) : Bool := Text.lower (.ofList cs) = word

mutual

/-- A value and its kind. Each level takes one unit of fuel. -/
def value : Nat → List Char → Reading (Json × Kind)
  | 0, _ => .error "Invalid date or number"
  | fuel + 1, cs =>
    match cs with
    | [] => .error "Empty value is invalid"
    | c :: rest =>
      if cs = "true".toList then .ok (.bool true, .bool)
      else if cs = "false".toList then .ok (.bool false, .bool)
      else if isTrue cs "true" || isTrue cs "false" then
        .error "Only all lowercase booleans allowed"
      else if Scan.isQuote c then (quoted c rest).map ((·, .text))
      else if c = '[' then do
        let items ← listItems fuel (partsOf cs)
        if (items.map (·.2)).eraseDups.length ≤ 1 then pure (.arr (items.map (·.1)), .list)
        else throw "Not a homogeneous array"
      else if c = '\x7b' then (tableOf fuel (partsOf cs) []).map fun ms => (.obj ms, .table)
      else if isTime cs || isDate cs then .ok (.arr [.str (.ofList cs)], .moment)
      else number cs

def listItems : Nat → List (List Char) → Reading (List (Json × Kind))
  | _, [] => .ok []
  | 0, _ => .error "Invalid date or number"
  | fuel + 1, cs :: rest => do
    let v ← value fuel cs
    pure (v :: (← listItems fuel rest))

def tableOf : Nat → List (List Char) → Members → Reading Members
  | _, [], ms => .ok ms
  | 0, _, _ => .error "Invalid date or number"
  | fuel + 1, cs :: rest, ms => do tableOf fuel rest (← pair fuel cs ms)

/-- Adds what one pair says to a table. -/
def pair : Nat → List Char → Members → Reading Members
  | 0, _, _ => .error "Invalid date or number"
  | fuel + 1, cs, ms =>
    match cutPair none cs with
    | none => .error "Invalid inline table encountered"
    | some (k, v) =>
      if startsWell v then do
        let (v, _) ← value fuel (Text.trimChars v)
        insert v (namesOf k) ms
      else .error "Invalid date or number"

end

end LinkShelf.Toml

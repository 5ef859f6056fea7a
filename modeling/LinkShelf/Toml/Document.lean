import LinkShelf.Toml.Value
/-!
A TOML document as one table. A heading chooses the table that the pairs after it go into.
-/
namespace LinkShelf.Toml

/-- The tables so far, the names that lead to the current one, and the names of tables that were
only passed through. -/
structure State where
  root : Members := []
  current : List String := []
  implicit : List String := []
  deriving Repr

/-- Changes a table, or the last table of a list. -/
def onTable (f : Members → Reading Members) (v : Json) : Reading Json :=
  match v with
  | .obj ms => do pure (.obj (← f ms))
  | .arr items =>
    match items.getLast? with
    | some (.obj ms) => do pure (.arr (items.dropLast ++ [.obj (← f ms)]))
    | _ => .error "Duplicate keys!"
  | _ => .error "Duplicate keys!"

/-- Changes the table that names lead to. -/
def within (f : Members → Reading Members) : List String → Members → Reading Members
  | [], ms => f ms
  | k :: ks, ms => do
    match ms.get? k with
    | some v => pure (ms.put k (← onTable (within f ks) v))
    | none => throw "Duplicate keys!"

def newTable (isList : Bool) : Json := if isList then .arr [.obj []] else .obj []

/-- Makes the table of a heading, `implicit` being passed through and changed. -/
def openTable (isList : Bool) (implicit : List String) :
    List String → Members → Reading (Members × List String)
  | [], ms => .ok (ms, implicit)
  | [k], ms =>
    match ms.get? k with
    | none => .ok (ms.put k (newTable isList), implicit)
    | some v =>
      if k ∈ implicit then
        if isList then .error "An implicitly defined table can't be an array"
        else .ok (ms, implicit.erase k)
      else
        match isList, v with
        | true, .arr items => .ok (ms.put k (.arr (items ++ [.obj []])), implicit)
        | _, _ =>
          .error ("What? " ++ k ++ " already exists?" ++ (Json.obj ms).shown)
  | k :: ks, ms => do
    match ms.get? k with
    | none =>
      let (inner, implicit) ← openTable isList (implicit ++ [k]) ks []
      pure (ms.put k (.obj inner), implicit)
    | some (.obj inner) =>
      let (inner, implicit) ← openTable isList implicit ks inner
      pure (ms.put k (.obj inner), implicit)
    | some (.arr items) =>
      match items.getLast? with
      | some (.obj inner) =>
        let (inner, implicit) ← openTable isList implicit ks inner
        pure (ms.put k (.arr (items.dropLast ++ [.obj inner])), implicit)
      | _ => throw ("What? " ++ k ++ " already exists?" ++ (Json.obj ms).shown)
    | some _ => throw ("What? " ++ k ++ " already exists?" ++ (Json.obj ms).shown)

def isBareName (s : String) : Bool :=
  s ≠ "" && s.toList.all fun c => c.isAlphanum || c = '_' || c = '-'

/-- A name of a heading: quoted, or of letters, digits and dashes. -/
def headingName (cs : List Char) : Reading String :=
  let s := Text.trimChars cs
  if s.head?.any Scan.isQuote then
    if nameOf s = "" then .error "Can't have a keygroup with an empty name" else .ok (nameOf s)
  else if isBareName (.ofList s) then .ok (.ofList s)
  else .error ("Invalid group name '" ++ .ofList s ++ "'. Try quoting it.")

/-- What a heading has between its brackets. -/
def headingOf (cs : List Char) : Reading (Bool × List Char) :=
  let isList := cs.head? = some '['
  let body := if isList then cs.drop 1 else cs
  let close : List Char := if isList then [']', ']'] else [']']
  let inside := body.take (body.length - close.length)
  if cs.isEmpty then .error "Opening key group bracket on line by itself."
  else if close.isSuffixOf body && !inside.contains ']' then .ok (isList, inside)
  else .error "Key group not on a line by itself."

/-- The state after one line. -/
def readLine (s : State) (cs : List Char) : Reading State :=
  match cs with
  | [] => .ok s
  | '[' :: rest => do
    let (isList, inside) ← headingOf rest
    let names ← (keyParts none [] inside).mapM headingName
    let (root, implicit) ← openTable isList s.implicit names s.root
    pure { root, current := names, implicit }
  | cs => do pure { s with root := ← within (pair (2 * cs.length + 2) cs) s.current s.root }

def readLines (s : State) : List Line → Except Trouble State
  | [] => .ok s
  | l :: ls =>
    match readLine s (Text.trimChars l.text) with
    | .ok s => readLines s ls
    | .error message => .error ⟨message, l.offset⟩

/-- The message of what is wrong, with its place. -/
def Trouble.describe (text : List Char) (t : Trouble) : String :=
  let before := text.take t.offset
  t.message ++ " (line " ++ toString (before.count '\n' + 1) ++ " column " ++
    toString ((before.reverse.takeWhile (· ≠ '\n')).length + 1) ++ " char " ++
    toString t.offset ++ ")"

def parse (text : String) : Except String Members :=
  match lines text.toList >>= readLines {} with
  | .ok s => .ok s.root
  | .error t => .error (t.describe text.toList)

end LinkShelf.Toml

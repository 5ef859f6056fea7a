import LinkShelf.Json.Display
/-!
JSON text. Only the quote, the backslash and the control characters are escaped; doubles have
their shortest digits, and the three doubles that are no numbers have names.
-/
namespace LinkShelf.Json

def escapeChar (c : Char) : List Char :=
  if c = '"' then ['\\', '"']
  else if c = '\\' then ['\\', '\\']
  else if c = '\n' then ['\\', 'n']
  else if c = '\r' then ['\\', 'r']
  else if c = '\t' then ['\\', 't']
  else if c = '\x08' then ['\\', 'b']
  else if c = '\x0c' then ['\\', 'f']
  else if c.toNat < 0x20 then '\\' :: 'u' :: hex 4 c.toNat
  else [c]

def literal (s : String) : List Char := '"' :: s.toList.flatMap escapeChar ++ ['"']

def number : Binary64 → String
  | .nan => "NaN"
  | .infinite s => if s then "-Infinity" else "Infinity"
  | x => x.text

/-- Where the parts of a list or object stand: on one line, or on lines of their own with so many
spaces for each level. -/
abbrev Indent := Option Nat

def Indent.separator (indent : Indent) (level : Nat) : List Char :=
  match indent with
  | none => [',', ' ']
  | some width => ',' :: '\n' :: List.replicate (width * level) ' '

def Indent.first (indent : Indent) (level : Nat) : List Char :=
  match indent with
  | none => []
  | some width => '\n' :: List.replicate (width * level) ' '

mutual

def write (indent : Indent) (level : Nat) : Json → List Char
  | .null => "null".toList
  | .bool b => (if b then "true" else "false").toList
  | .int n => (intText n).toList
  | .float x => (number x).toList
  | .str s => literal s
  | .arr [] => ['[', ']']
  | .arr (v :: vs) =>
    '[' :: indent.first (level + 1) ++ write indent (level + 1) v ++
      writeItems indent (level + 1) vs ++ indent.first level ++ [']']
  | .obj [] => ['\x7b', '\x7d']
  | .obj ((k, v) :: ms) =>
    '\x7b' :: indent.first (level + 1) ++ literal k ++ ':' :: ' ' ::
      write indent (level + 1) v ++
      writeMembers indent (level + 1) ms ++ indent.first level ++ ['\x7d']

def writeItems (indent : Indent) (level : Nat) : List Json → List Char
  | [] => []
  | v :: vs => indent.separator level ++ write indent level v ++ writeItems indent level vs

def writeMembers (indent : Indent) (level : Nat) : List (String × Json) → List Char
  | [] => []
  | (k, v) :: ms =>
    indent.separator level ++ literal k ++ ':' :: ' ' :: write indent level v ++
      writeMembers indent level ms

end

def render (indent : Indent) (v : Json) : String := .ofList (write indent 0 v)

end LinkShelf.Json

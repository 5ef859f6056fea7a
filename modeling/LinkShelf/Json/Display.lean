import LinkShelf.Json.Basic
import LinkShelf.Number.Shortest
import LinkShelf.Text.Printable
/-!
How a value reads when it is shown as text. A text shows as itself; inside a list or an object it
shows quoted.
-/
namespace LinkShelf.Json

/-- Lower-case hexadecimal digits, padded with zeros to a width. -/
def hex (width n : Nat) : List Char :=
  let ds := Nat.toDigits 16 n
  List.replicate (width - ds.length) '0' ++ ds

def quoteChar (quote : Char) (c : Char) : List Char :=
  if c = quote ∨ c = '\\' then ['\\', c]
  else if c = '\n' then ['\\', 'n']
  else if c = '\r' then ['\\', 'r']
  else if c = '\t' then ['\\', 't']
  else if Text.isPrintable c then [c]
  else if c.toNat < 0x100 then '\\' :: 'x' :: hex 2 c.toNat
  else if c.toNat < 0x10000 then '\\' :: 'u' :: hex 4 c.toNat
  else '\\' :: 'U' :: hex 8 c.toNat

/-- A quoted text. Double quotes are taken only to spare a single quote its escape. -/
def quoted (s : String) : String :=
  let cs := s.toList
  let q := if cs.contains '\'' && !cs.contains '"' then '"' else '\''
  .ofList (q :: cs.flatMap (quoteChar q) ++ [q])

def intText (n : Int) : String :=
  if n < 0 then "-" ++ Binary64.digitsText n.natAbs else Binary64.digitsText n.natAbs

mutual

def shown : Json → String
  | .null => "None"
  | .bool b => if b then "True" else "False"
  | .int n => intText n
  | .float x => x.text
  | .str s => quoted s
  | .arr items => "[" ++ ", ".intercalate (shownItems items) ++ "]"
  | .obj ms => "\x7b" ++ ", ".intercalate (shownMembers ms) ++ "\x7d"

def shownItems : List Json → List String
  | [] => []
  | v :: vs => shown v :: shownItems vs

def shownMembers : List (String × Json) → List String
  | [] => []
  | (k, v) :: ms => (quoted k ++ ": " ++ shown v) :: shownMembers ms

end

def text : Json → String
  | .str s => s
  | v => v.shown

end LinkShelf.Json

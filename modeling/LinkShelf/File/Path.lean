import LinkShelf.Text.Find
/-!
Paths: a root, if any, and the names on the way. Single dots and repeated slashes vanish; double
dots stay.
-/
namespace LinkShelf

structure Path where
  root : String := ""
  parts : List String := []
  deriving DecidableEq, Repr

namespace Path

/-- Two leading slashes are a root of their own; three or more are one. -/
def rootOf : List Char → String
  | ['/', '/'] => "//"
  | '/' :: '/' :: c :: _ => if c = '/' then "/" else "//"
  | '/' :: _ => "/"
  | _ => ""

def ofText (s : String) : Path :=
  { root := rootOf s.toList
    parts := (Text.split s '/').filter fun p => p != "" && p != "." }

def text (p : Path) : String :=
  if p.root = "" && p.parts.isEmpty then "." else p.root ++ "/".intercalate p.parts

def name (p : Path) : String := (p.parts.getLast?).getD ""

/-- Index of the dot that starts the suffix of a name: the last one, unless it is first or
last. -/
def suffixStart? (name : List Char) : Option Nat :=
  let after := (name.reverse.takeWhile (· != '.')).length
  if after < name.length ∧ 0 < after ∧ after + 1 < name.length then some (name.length - after - 1)
  else none

def suffix (p : Path) : String :=
  match suffixStart? p.name.toList with
  | some i => .ofList (p.name.toList.drop i)
  | none => ""

def stem (p : Path) : String :=
  match suffixStart? p.name.toList with
  | some i => .ofList (p.name.toList.take i)
  | none => p.name

def parent (p : Path) : Path := { p with parts := p.parts.dropLast }

def isAbsolute (p : Path) : Bool := p.root != ""

def under (base p : Path) : Path :=
  if p.isAbsolute then p else { base with parts := base.parts ++ p.parts }

/-- The path with a text put after its last name. -/
def extend (p : Path) (s : String) : Path :=
  { p with parts := p.parts.dropLast ++ [p.name ++ s] }

end Path

end LinkShelf

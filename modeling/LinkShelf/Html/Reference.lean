import LinkShelf.Html.Names
import LinkShelf.Text.Digit
/-!
Character references: writing a text so that markup cannot see into it, and resolving the
references of an attribute value or of running text.
-/
namespace LinkShelf.Html

def escapeChar (c : Char) : List Char :=
  match c with
  | '&' => "&amp;".toList
  | '<' => "&lt;".toList
  | '>' => "&gt;".toList
  | '"' => "&quot;".toList
  | '\'' => "&#x27;".toList
  | c => [c]

def escapeChars (cs : List Char) : List Char := cs.flatMap escapeChar

/-- A text for use in markup, inside quotes or outside. -/
def escape (s : String) : String := .ofList (escapeChars s.toList)

/-- What numbers from 128 to 159 stand for, as old pages use them. -/
def windowsNames : List (Nat × Nat) :=
  [(0x80,0x20AC), (0x82,0x201A), (0x83,0x192), (0x84,0x201E), (0x85,0x2026), (0x86,0x2020),
   (0x87,0x2021), (0x88,0x2C6), (0x89,0x2030), (0x8A,0x160), (0x8B,0x2039), (0x8C,0x152),
   (0x8E,0x17D), (0x91,0x2018), (0x92,0x2019), (0x93,0x201C), (0x94,0x201D), (0x95,0x2022),
   (0x96,0x2013), (0x97,0x2014), (0x98,0x2DC), (0x99,0x2122), (0x9A,0x161), (0x9B,0x203A),
   (0x9C,0x153), (0x9E,0x17E), (0x9F,0x178)]

def ofWindows (n : Nat) : Nat := (windowsNames.lookup n).getD n

def isSurrogate (n : Nat) : Bool := 0xD800 ≤ n && n ≤ 0xDFFF

/-- Code points that no character reference may name: control characters and noncharacters. -/
def isForbidden (n : Nat) : Bool :=
  (0x1 ≤ n && n ≤ 0x8) || n = 0xB || (0xE ≤ n && n ≤ 0x1F) || (0x7F ≤ n && n ≤ 0x9F) ||
    (0xFDD0 ≤ n && n ≤ 0xFDEF) || n % 0x10000 = 0xFFFE || n % 0x10000 = 0xFFFF

/-- The character of a number in an attribute value; forbidden ones vanish. -/
def numbered (n : Nat) : List Char :=
  if n = 0 || isSurrogate n || 0x10FFFF < n then ['\uFFFD']
  else if 0x80 ≤ n && n ≤ 0x9F then [Char.ofNat (ofWindows n)]
  else if isForbidden n then []
  else [Char.ofNat n]

/-- The character of a number in running text. -/
def numberedInText (n : Nat) : Char :=
  if isSurrogate n || 0x10FFFF < n then '\uFFFD' else Char.ofNat (ofWindows n)

def isHexDigit (c : Char) : Bool := (Text.hexDigit? c).isSome

def ofHex (ds : List Char) : Nat := Text.ofDigits 16 (ds.filterMap Text.hexDigit?)

def ofDecimalDigits (ds : List Char) : Nat := Text.ofDigits 10 (ds.map fun c => c.toNat - 48)

def dropSemicolon : List Char → List Char
  | ';' :: cs => cs
  | cs => cs

def isNameChar (c : Char) : Bool :=
  !(c = '\t' || c = '\n' || c = '\x0c' || c = ' ' || c = '<' || c = '&' || c = '#' || c = ';')

/-- The longest start of at least two characters that names a character by itself. -/
def barePrefix? (name : List Char) : Nat → Option (List Char × List Char)
  | 0 | 1 => none
  | n + 2 =>
    let head := String.ofList (name.take (n + 2))
    match if head ∈ bareNames then named? head else none with
    | some cs => some (cs, name.drop (n + 2))
    | none => barePrefix? name (n + 1)

/-- What a name stands for in an attribute value. With its semicolon any name counts; without, or
where more follows, only some do. -/
def resolveName (name : List Char) (semicolon : Bool) : List Char :=
  let whole := String.ofList name
  let tail := if semicolon then [';'] else []
  let known := if semicolon || bareNames.contains whole then named? whole else none
  match known with
  | some cs => cs
  | none =>
    match barePrefix? name (if semicolon then name.length else name.length - 1) with
    | some (cs, rest) => cs ++ rest ++ tail
    | none => '&' :: name ++ tail

/-- The reference that follows an ampersand: what it stands for and what is left. -/
def reference? (cs : List Char) : Option (List Char × List Char) :=
  match cs with
  | '#' :: 'x' :: rest | '#' :: 'X' :: rest =>
    let ds := rest.takeWhile isHexDigit
    if ds.isEmpty then none
    else some (numbered (ofHex ds), dropSemicolon (rest.dropWhile isHexDigit))
  | '#' :: rest =>
    let ds := rest.takeWhile Char.isDigit
    if ds.isEmpty then none
    else some (numbered (ofDecimalDigits ds), dropSemicolon (rest.dropWhile Char.isDigit))
  | cs =>
    let name := (cs.take 32).takeWhile isNameChar
    if name.isEmpty then none
    else
      match cs.drop name.length with
      | ';' :: rest => some (resolveName name true, rest)
      | rest => some (resolveName name false, rest)

/-- Resolves the references of an attribute value; fuel is one more than its length. -/
def resolveFrom : Nat → List Char → List Char
  | 0, cs => cs
  | _, [] => []
  | fuel + 1, c :: cs =>
    if c = '&' then
      match reference? cs with
      | some (value, rest) => value ++ resolveFrom fuel rest
      | none => c :: resolveFrom fuel cs
    else c :: resolveFrom fuel cs

def resolve (cs : List Char) : List Char := resolveFrom (cs.length + 1) cs

end LinkShelf.Html

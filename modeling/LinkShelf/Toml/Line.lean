import LinkShelf.Text.Trim
import LinkShelf.Text.Word
/-!
The lines of a TOML document: each key with its value or each table heading, without comments, a
list that runs over several lines being put on one. A line that breaks the form of a document is
told before any line is looked into.
-/
namespace LinkShelf.Toml

/-- What is wrong, and at which character. -/
structure Trouble where
  message : String
  offset : Nat
  deriving DecidableEq, Repr

structure Line where
  offset : Nat
  text : List Char
  deriving DecidableEq, Repr

/-- Where in a line the scan is. -/
inductive Place where
  /-- Only blanks so far. -/
  | start
  /-- Inside a bare key; whether it has a dot, and the character before. -/
  | key (dotted : Bool) (before : Char)
  /-- After a key or a part of it. -/
  | keyEnd (dotted : Bool)
  /-- Inside a quoted part of a key; whether a backslash holds the next character. -/
  | quotedKey (dotted : Bool) (quote : Char) (held : Bool)
  /-- Inside a heading in single or double brackets. -/
  | heading (double : Bool)
  /-- In a value, or after a heading. -/
  | value
  /-- In a text within a value. -/
  | text (quote : Char) (held : Bool)
  /-- In a text that may run over several lines. -/
  | longText (quote : Char) (held : Bool)
  deriving DecidableEq, Repr

/-- The scan so far: lines and the current one in reverse, and how many lists are open. -/
structure Scan where
  place : Place := .start
  depth : Int := 0
  offset : Nat := 0
  lineStart : Nat := 0
  current : List Char := []
  lines : List Line := []
  deriving Repr

namespace Scan

def push (s : Scan) (c : Char) : Scan :=
  { s with offset := s.offset + 1, current := c :: s.current }

def at_ (s : Scan) (p : Place) : Scan := { s with place := p }

def endLine (s : Scan) : Scan :=
  { s with
    place := .start, offset := s.offset + 1, lineStart := s.offset + 1, current := []
    lines := ⟨s.lineStart, s.current.reverse⟩ :: s.lines }

def isQuote (c : Char) : Bool := c = '"' || c = '\''

def strangeKey (c : Char) (s : Scan) : Except Trouble Scan :=
  .error ⟨"Found invalid character in key name: '" ++ c.toString ++ "'. Try quoting the key name.",
    s.offset⟩

/-- One character of a key that is not part of its name. -/
def afterKey (s : Scan) (c : Char) : Except Trouble Scan :=
  if c = '=' then .ok ((s.push c).at_ .value)
  else if c = '\n' then .error ⟨"Key name found without value. Reached end of line.", s.offset⟩
  else strangeKey c s

/-- The place after a dot or a blank behind it, given the next character. -/
def keyOrEnd (dotted : Bool) (next : Option Char) : Place :=
  match next with
  | some d => if dotted && !Text.isBlank d && d ≠ '.' then .key dotted '.' else .keyEnd dotted
  | none => .keyEnd dotted

/-- The first character of a line that is no blank. -/
def first (s : Scan) (c : Char) (next : Option Char) : Except Trouble Scan :=
  if c = '=' then .error ⟨"Found empty keyname. ", s.offset⟩
  else if c = '[' then .ok ((s.push c).at_ (.heading (next = some '[')))
  else if isQuote c then .ok ((s.push c).at_ (.quotedKey false c false))
  else .ok ((s.push c).at_ (.key false c))

/-- One character in a value outside of texts. -/
def inValue (s : Scan) (c : Char) : Scan :=
  if c = '\n' then if s.depth = 0 then s.endLine else s.push ' '
  else if c = '[' then { s.push c with depth := s.depth + 1 }
  else if c = ']' then { s.push c with depth := s.depth - 1 }
  else s.push c

def inText (s : Scan) (q c : Char) (held : Bool) : Except Trouble Scan :=
  if c = '\n' then .error ⟨"Unbalanced quotes", s.offset⟩
  else if c = q && !held then .ok ((s.push c).at_ .value)
  else .ok ((s.push c).at_ (.text q (q = '"' && c = '\\' && !held)))

/-- One character, given the one after it, outside of comments and long texts. -/
def step (s : Scan) (c : Char) (next : Option Char) : Except Trouble Scan :=
  match s.place with
  | .start =>
    if c = '\n' then .ok s.endLine
    else if c = ' ' || c = '\t' then .ok (s.push c)
    else first s c next
  | .key dotted before =>
    if c = '\n' then afterKey s c
    else if Text.isBlank c then .ok ((s.push c).at_ (.keyEnd dotted))
    else if c = '.' then .ok ((s.push c).at_ (.key true c))
    else if Text.isWord c || c = '-' then .ok ((s.push c).at_ (.key dotted c))
    else if dotted && before = '.' && isQuote c then
      .ok ((s.push c).at_ (.quotedKey dotted c false))
    else afterKey s c
  | .keyEnd dotted =>
    if c = '\n' then afterKey s c
    else if Text.isBlank c then .ok ((s.push c).at_ (keyOrEnd dotted next))
    else if c = '.' then .ok ((s.push c).at_ (keyOrEnd true next))
    else afterKey s c
  | .quotedKey dotted q held =>
    if c = '\n' then afterKey s c
    else if c = q && !held then .ok ((s.push c).at_ (.keyEnd dotted))
    else .ok ((s.push c).at_ (.quotedKey dotted q (c = '\\' && !held)))
  | .heading double =>
    if c = '\n' then .ok { s.endLine with place := .heading double }
    else if c = ']' && (!double || s.current.head? = some ']') then .ok ((s.push c).at_ .value)
    else .ok (s.push c)
  | .value =>
    if isQuote c then .ok ((s.push c).at_ (.text c false)) else .ok (s.inValue c)
  | .text q held => inText s q c held
  | .longText .. => .ok (s.push c)

/-- Whether a comment starts at a character. -/
def startsComment (s : Scan) (c : Char) : Bool :=
  c = '#' && (s.place = .start || s.place = .value)

/-- Whether three quotes stand here. -/
def tripled : List Char → Bool
  | c :: d :: e :: _ => isQuote c && c = d && d = e
  | _ => false

/-- The scan of a text; a comment is left out, and three quotes open or close a long text. -/
def run (s : Scan) : List Char → Except Trouble Scan
  | [] => .ok s
  | c :: d :: e :: cs =>
    match s.place with
    | .longText q held =>
      if c = q && d = q && e = q && !held then
        run ((((s.push c).push d).push e).at_ .value) cs
      else run ((s.push c).at_ (.longText q (q = '"' && c = '\\' && !held))) (d :: e :: cs)
    | _ =>
      if s.startsComment c then
        run { s with offset := s.offset + 1 + ((d :: e :: cs).takeWhile (· ≠ '\n')).length }
          ((d :: e :: cs).dropWhile (· ≠ '\n'))
      else if s.place = .value && tripled (c :: d :: e :: cs) then
        run ((((s.push c).push d).push e).at_ (.longText c false)) cs
      else
        match s.step c (some d) with
        | .error t => .error t
        | .ok s => run s (d :: e :: cs)
  | c :: cs =>
    if s.startsComment c then
      run { s with offset := s.offset + 1 + (cs.takeWhile (· ≠ '\n')).length }
        (cs.dropWhile (· ≠ '\n'))
    else
      match s.step c cs.head? with
      | .error t => .error t
      | .ok s => run s cs
termination_by cs => cs.length
decreasing_by
  all_goals simp only [List.length_cons]
  all_goals first
    | omega
    | exact Nat.lt_succ_of_le (List.IsSuffix.length_le (List.dropWhile_suffix _))

/-- What a text ends in must be complete. -/
def finish (s : Scan) : Except Trouble (List Line) :=
  match s.place with
  | .key .. | .keyEnd _ | .quotedKey .. =>
    .error ⟨"Key name found without value. Reached end of file.", s.offset⟩
  | .text .. | .longText .. =>
    .error ⟨"Unterminated string found. Reached end of file.", s.offset⟩
  | _ => .ok s.endLine.lines.reverse

end Scan

def lines (cs : List Char) : Except Trouble (List Line) :=
  match Scan.run {} cs with
  | .error t => .error t
  | .ok s => s.finish

end LinkShelf.Toml

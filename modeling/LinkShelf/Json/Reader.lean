import LinkShelf.Json.Basic
import LinkShelf.Number.Numeral
/-!
Reading JSON text. The names of the three doubles that are no numbers are accepted, the last of
several equal names wins, and a fault is named together with the place where it was found.
-/
namespace LinkShelf.Json

inductive Trouble where
  | byteOrderMark
  | value
  | comma
  | colon
  | name
  | extra
  | unterminated
  | control
  | escape
  | codePoint
  deriving DecidableEq, Repr

def Trouble.message : Trouble → String
  | .byteOrderMark => "Unexpected UTF-8 BOM (decode using utf-8-sig)"
  | .value => "Expecting value"
  | .comma => "Expecting ',' delimiter"
  | .colon => "Expecting ':' delimiter"
  | .name => "Expecting property name enclosed in double quotes"
  | .extra => "Extra data"
  | .unterminated => "Unterminated string starting at"
  | .control => "Invalid control character at"
  | .escape => "Invalid \\escape"
  | .codePoint => "Invalid \\uXXXX escape"

structure Stop where
  trouble : Trouble
  rest : List Char
  deriving DecidableEq, Repr

abbrev Scan (α : Type) := Except Stop (α × List Char)

def isSpace (c : Char) : Bool := c = ' ' || c = '\t' || c = '\n' || c = '\r'

def skip (cs : List Char) : List Char := cs.dropWhile isSpace

def unescape? : Char → Option Char
  | '"' => some '"'
  | '\\' => some '\\'
  | '/' => some '/'
  | 'b' => some '\x08'
  | 'f' => some '\x0c'
  | 'n' => some '\n'
  | 'r' => some '\r'
  | 't' => some '\t'
  | _ => none

def hex4? (a b c d : Char) : Option Nat := do
  let a ← Text.hexDigit? a
  let b ← Text.hexDigit? b
  let c ← Text.hexDigit? c
  let d ← Text.hexDigit? d
  pure (((a * 16 + b) * 16 + c) * 16 + d)

def isHighSurrogate (n : Nat) : Bool := 0xD800 ≤ n && n < 0xDC00

def isLowSurrogate (n : Nat) : Bool := 0xDC00 ≤ n && n < 0xE000

def joinSurrogates (high low : Nat) : Nat := 0x10000 + (high - 0xD800) * 0x400 + (low - 0xDC00)

/-- A surrogate that stands alone is no character and reads as the replacement character. -/
def charOf (n : Nat) : Char :=
  if isHighSurrogate n || isLowSurrogate n then '\uFFFD' else Char.ofNat n

/-- A character in front of what the rest of the literal reads as. -/
def push (c : Char) : Scan (List Char) → Scan (List Char)
  | .ok (s, rest) => .ok (c :: s, rest)
  | .error e => .error e

/-- The rest of a string literal, `opened` being the text from its opening quote on. The escape
of a code point wants one more character after its four digits. -/
def literalFrom (opened : List Char) : List Char → Scan (List Char)
  | [] => .error ⟨.unterminated, opened⟩
  | '"' :: rest => .ok ([], rest)
  | ['\\'] => .error ⟨.unterminated, opened⟩
  | '\\' :: 'u' :: a :: b :: c :: d :: '\\' :: 'u' :: e :: f :: g :: h :: x :: rest =>
    match hex4? a b c d with
    | none =>
      .error ⟨.codePoint, 'u' :: a :: b :: c :: d :: '\\' :: 'u' :: e :: f :: g :: h :: x :: rest⟩
    | some n =>
      if isHighSurrogate n then
        match hex4? e f g h with
        | none => .error ⟨.codePoint, 'u' :: e :: f :: g :: h :: x :: rest⟩
        | some m =>
          if isLowSurrogate m then
            push (Char.ofNat (joinSurrogates n m)) (literalFrom opened (x :: rest))
          else push (charOf n) (literalFrom opened ('\\' :: 'u' :: e :: f :: g :: h :: x :: rest))
      else push (charOf n) (literalFrom opened ('\\' :: 'u' :: e :: f :: g :: h :: x :: rest))
  | '\\' :: 'u' :: a :: b :: c :: d :: x :: rest =>
    match hex4? a b c d with
    | none => .error ⟨.codePoint, 'u' :: a :: b :: c :: d :: x :: rest⟩
    | some n => push (charOf n) (literalFrom opened (x :: rest))
  | '\\' :: 'u' :: rest => .error ⟨.codePoint, rest⟩
  | '\\' :: c :: rest =>
    match unescape? c with
    | some e => push e (literalFrom opened rest)
    | none => .error ⟨.escape, '\\' :: c :: rest⟩
  | c :: rest =>
    if c.toNat < 0x20 then .error ⟨.control, c :: rest⟩
    else push c (literalFrom opened rest)

def literal? (opened afterQuote : List Char) : Scan String :=
  match literalFrom opened afterQuote with
  | .ok (s, rest) => .ok (.ofList s, rest)
  | .error e => .error e

/-- The digits of a whole number: a zero stands alone. -/
def wholeDigits : List Char → List Char × List Char
  | [] => ([], [])
  | c :: cs =>
    if c = '0' then ([c], cs)
    else if c.isDigit then (c :: cs.takeWhile Char.isDigit, cs.dropWhile Char.isDigit)
    else ([], c :: cs)

/-- A fraction counts only if a digit follows the point. -/
def fractionDigits : List Char → List Char × List Char
  | '.' :: c :: cs =>
    if c.isDigit then (c :: cs.takeWhile Char.isDigit, cs.dropWhile Char.isDigit)
    else ([], '.' :: c :: cs)
  | cs => ([], cs)

/-- An exponent counts only if it has digits. -/
def exponent? : List Char → Option (Int × List Char)
  | e :: cs =>
    if e = 'e' ∨ e = 'E' then
      let (negative, cs) := Numeral.sign cs
      match Numeral.digits cs with
      | ([], _) => none
      | (ds, rest) =>
        let n := Text.ofDigits 10 ds
        some (if negative then -n else n, rest)
    else none
  | [] => none

def digitValues (ds : List Char) : List Nat := ds.map fun c => c.toNat - 48

/-- A number after its sign: whole unless it has a fraction or an exponent. -/
def unsigned? (negative : Bool) (cs : List Char) : Option (Json × List Char) :=
  match wholeDigits cs with
  | ([], _) => none
  | (whole, rest) =>
    let (fraction, rest) := fractionDigits rest
    let digits := Text.ofDigits 10 (digitValues (whole ++ fraction))
    match exponent? rest with
    | some (e, rest) => some (.float (.ofDecimal negative digits (e - fraction.length)), rest)
    | none =>
      if fraction.isEmpty then some (.int (if negative then -digits else digits), rest)
      else some (.float (.ofDecimal negative digits (-fraction.length)), rest)

def number? : List Char → Option (Json × List Char)
  | '-' :: cs => unsigned? true cs
  | cs => unsigned? false cs

def constants : List (List Char × Json) :=
  [("null".toList, .null), ("true".toList, .bool true), ("false".toList, .bool false),
   ("NaN".toList, .float .nan), ("Infinity".toList, .float (.infinite false)),
   ("-Infinity".toList, .float (.infinite true))]

def constant? (cs : List Char) : Option (Json × List Char) :=
  constants.findSome? fun (name, v) =>
    if name.isPrefixOf cs then some (v, cs.drop name.length) else none

def scalar (cs : List Char) : Scan Json :=
  match constant? cs with
  | some r => .ok r
  | none =>
    match number? cs with
    | some r => .ok r
    | none => .error ⟨.value, cs⟩

mutual

/-- A value at the start of the text. Each step takes one unit of fuel. -/
def value : Nat → List Char → Scan Json
  | 0, cs => .error ⟨.value, cs⟩
  | fuel + 1, cs =>
    match cs with
    | '"' :: rest =>
      match literal? ('"' :: rest) rest with
      | .ok (s, rest) => .ok (.str s, rest)
      | .error e => .error e
    | '[' :: rest =>
      match skip rest with
      | ']' :: rest => .ok (.arr [], rest)
      | rest => items fuel rest []
    | '\x7b' :: rest =>
      match skip rest with
      | '\x7d' :: rest => .ok (.obj [], rest)
      | rest => members fuel rest []
    | cs => scalar cs

/-- The items of a list from the next one on, those before it in reverse. -/
def items : Nat → List Char → List Json → Scan Json
  | 0, cs, _ => .error ⟨.value, cs⟩
  | fuel + 1, cs, done =>
    match value fuel cs with
    | .error e => .error e
    | .ok (v, rest) =>
      match skip rest with
      | ']' :: rest => .ok (.arr (v :: done).reverse, rest)
      | ',' :: rest => items fuel (skip rest) (v :: done)
      | rest => .error ⟨.comma, rest⟩

/-- The members of an object from the next name on. -/
def members : Nat → List Char → Members → Scan Json
  | 0, cs, _ => .error ⟨.value, cs⟩
  | fuel + 1, cs, done =>
    match cs with
    | '"' :: rest =>
      match literal? ('"' :: rest) rest with
      | .error e => .error e
      | .ok (k, rest) =>
        match skip rest with
        | ':' :: rest =>
          match value fuel (skip rest) with
          | .error e => .error e
          | .ok (v, rest) =>
            match skip rest with
            | '\x7d' :: rest => .ok (.obj (done.put k v), rest)
            | ',' :: rest => members fuel (skip rest) (done.put k v)
            | rest => .error ⟨.comma, rest⟩
        | rest => .error ⟨.colon, rest⟩
    | cs => .error ⟨.name, cs⟩

end

/-- One value with nothing but blanks around it. -/
def document (cs : List Char) : Except Stop Json :=
  match cs with
  | '\uFEFF' :: _ => .error ⟨.byteOrderMark, cs⟩
  | cs =>
    match value (2 * cs.length + 2) (skip cs) with
    | .error e => .error e
    | .ok (v, rest) =>
      match skip rest with
      | [] => .ok v
      | rest => .error ⟨.extra, rest⟩

/-- A fault with its place: line and column count from one, the character from zero. -/
structure SyntaxError where
  trouble : Trouble
  line : Nat
  column : Nat
  offset : Nat
  deriving DecidableEq, Repr

def Stop.place (text : List Char) (stop : Stop) : SyntaxError :=
  let offset := text.length - stop.rest.length
  let before := text.take offset
  { trouble := stop.trouble
    line := before.count '\n' + 1
    column := (before.reverse.takeWhile (· != '\n')).length + 1
    offset }

def SyntaxError.message (e : SyntaxError) : String :=
  e.trouble.message ++ ": line " ++ toString e.line ++ " column " ++ toString e.column ++
    " (char " ++ toString e.offset ++ ")"

def parse (text : String) : Except SyntaxError Json :=
  match document text.toList with
  | .ok v => .ok v
  | .error stop => .error (stop.place text.toList)

end LinkShelf.Json

import LinkShelf.Html.Reference
import LinkShelf.Json.Display
import LinkShelf.Text.Find
import LinkShelf.Text.Lower
import LinkShelf.Text.Trim
/-!
Markup as tokens. Reading is lenient: what cannot be a tag is text. It takes two goes over the
input: the first stops before what looks unfinished, the second knows that nothing more will come.
-/
namespace LinkShelf.Html

abbrev Attributes := List (String × String)

inductive Token where
  | text (cs : List Char)
  | opening (name : String) (attributes : Attributes)
  /-- A tag written as open and closed at once. -/
  | single (name : String) (attributes : Attributes)
  | closing (name : String)
  /-- A comment, declaration or instruction, which shows nothing. -/
  | aside
  /-- A marked section whose content is text of its own. -/
  | section_ (cs : List Char)
  deriving DecidableEq, Repr

def isLetter (c : Char) : Bool := ('a' ≤ c && c ≤ 'z') || ('A' ≤ c && c ≤ 'Z')

def isAlnum (c : Char) : Bool := isLetter c || c.isDigit

def endsTagName (c : Char) : Bool :=
  c = '\t' || c = '\n' || c = '\r' || c = '\x0c' || c = ' ' || c = '/' || c = '>' || c = '\x00'

/-- Passes over blanks and over slashes that do not stand before the end of a tag, remembering
the last character before what is left. -/
def skipGap (last : Char) : List Char → Char × List Char
  | [] => (last, [])
  | '/' :: '>' :: cs => (last, '/' :: '>' :: cs)
  | c :: cs => if c = '/' || Text.isBlank c then skipGap c cs else (last, c :: cs)

/-- What stands before the first such character, and what stands after it. -/
def until? (stop : Char) : List Char → Option (List Char × List Char)
  | [] => none
  | c :: cs =>
    if c = stop then some ([], cs)
    else (until? stop cs).map fun (before, after) => (c :: before, after)

def bareValue (cs : List Char) : List Char × List Char :=
  let p := fun c => !(c = '>' || Text.isBlank c)
  (cs.takeWhile p, cs.dropWhile p)

def lastOf (default_ : Char) (cs : List Char) : Char := cs.getLast?.getD default_

/-- The value after the name of an attribute: its text, the last character it takes, and what is
left. A quote that is never closed starts no value, but one of several equals signs or a blank
before it may be taken for one. -/
def value? (cs : List Char) : Option (List Char × Char × List Char) :=
  let fromSigns := cs.dropWhile Text.isBlank
  let signs := fromSigns.takeWhile (· = '=')
  let afterSigns := fromSigns.dropWhile (· = '=')
  let gap := afterSigns.takeWhile Text.isBlank
  let rest := afterSigns.dropWhile Text.isBlank
  let instead : Option (List Char × Char × List Char) :=
    if !gap.isEmpty then some ([], lastOf '=' gap, rest)
    else if signs.length ≥ 2 then
      let (v, rest) := bareValue rest
      some ('=' :: v, lastOf '=' v, rest)
    else none
  if signs.isEmpty then none
  else match rest with
    | c :: body =>
      if c = '\'' || c = '"' then
        match until? c body with
        | some (v, rest) => some (v, c, rest)
        | none => instead
      else
        let (v, rest) := bareValue rest
        some (v, lastOf (lastOf '=' gap) v, rest)
    | [] => some ([], lastOf '=' gap, [])

/-- Whether an attribute may begin after such a character. -/
def opensAttribute (c : Char) : Bool := c = '\'' || c = '"' || c = '/' || Text.isBlank c

def isAttributeChar (c : Char) : Bool := !(c = '/' || c = '=' || c = '>' || Text.isBlank c)

/-- The attributes of a tag, `last` being the character before them, and what is left. -/
def attributesFrom : Nat → Char → List Char → Attributes × List Char
  | 0, _, cs => ([], cs)
  | _, _, [] => ([], [])
  | fuel + 1, last, c :: cs =>
    if opensAttribute last && c != '/' && c != '>' && !Text.isBlank c then
      let name := c :: cs.takeWhile isAttributeChar
      let rest := cs.dropWhile isAttributeChar
      let (value, last, rest) := (value? rest).getD ([], lastOf c name, rest)
      let (last, rest) := skipGap last rest
      let (more, rest) := attributesFrom fuel last rest
      ((Text.lower (.ofList name), .ofList (resolve value)) :: more, rest)
    else ([], c :: cs)

inductive TagScan where
  | whole (name : String) (attributes : Attributes) (closed : Bool) (rest : List Char)
  /-- No tag after all; what is left comes after text. -/
  | stray (rest : List Char)
  | unfinished

def scanTag (cs : List Char) : TagScan :=
  let name := cs.takeWhile (!endsTagName ·)
  let (last, rest) := skipGap (lastOf '<' name) (cs.dropWhile (!endsTagName ·))
  let (attributes, rest) := attributesFrom (rest.length + 1) last rest
  let name := Text.lower (.ofList name)
  match rest with
  | '>' :: rest => .whole name attributes false rest
  | '/' :: '>' :: rest => .whole name attributes true rest
  | [] => .unfinished
  | c :: _ => if isLetter c || c = '=' || c = '/' then .unfinished else .stray rest

def isRaw (name : String) : Bool := name = "script" || name = "style"

/-- Passes over characters that satisfy `p` up to the end of a tag. -/
def closedAfter? (cs : List Char) : Option (List Char) :=
  match cs.dropWhile Text.isBlank with
  | '>' :: rest => some rest
  | _ => none

def afterComment? : List Char → Option (List Char)
  | [] => none
  | '-' :: '-' :: cs =>
    match closedAfter? cs with
    | some rest => some rest
    | none => afterComment? ('-' :: cs)
  | _ :: cs => afterComment? cs
termination_by cs => cs.length

/-- The end of a marked section: content and what is left. `double` asks for two brackets. -/
def sectionEnd? (double : Bool) : List Char → Option (List Char × List Char)
  | [] => none
  | c :: cs =>
    let closed := if c = ']' then
        if double then
          match cs.dropWhile Text.isBlank with
          | ']' :: rest => closedAfter? rest
          | _ => none
        else closedAfter? cs
      else none
    match closed with
    | some rest => some ([], rest)
    | none => (sectionEnd? double cs).map fun (before, after) => (c :: before, after)

inductive Next where
  /-- Tokens and what is left; a name says whose raw content follows. -/
  | tokens (ts : List Token) (rest : List Char) (raw : Option String)
  | unfinished
  /-- Nothing more can be told apart in this go. -/
  | stop (ts : List Token) (rest : List Char)
  | rejected (message : String)

def isSectionChar (c : Char) : Bool := isAlnum c || c = '-' || c = '_' || c = '.'

/-- A marked section, from its start; `cs` begins after the bracket. -/
def markedSection (start cs : List Char) : Next :=
  match cs with
  | [] => .unfinished
  | c :: _ =>
    if isLetter c then
      let name := cs.takeWhile isSectionChar
      let gap := (cs.dropWhile isSectionChar).takeWhile Text.isBlank
      if name.length + gap.length = cs.length then .unfinished
      else
        let lowered := Text.lower (.ofList name)
        let double := lowered ∈ ["temp", "cdata", "ignore", "include", "rcdata"]
        if double || lowered ∈ ["if", "else", "endif"] then
          match sectionEnd? double cs with
          | none => .unfinished
          | some (content, rest) =>
            if Text.startsWith (Text.lower (.ofList (content.take 6))) "cdata[" then
              .tokens [.section_ (content.drop 6)] rest none
            else .tokens [.aside] rest none
        else .rejected ("unknown status keyword " ++ Json.quoted (.ofList (name ++ gap)) ++
            " in marked section")
    else .rejected ("expected name token at " ++ Json.quoted (.ofList (start.take 20)))

/-- A declaration, a comment that is none, or whatever else ends at the next closing bracket. -/
def bogus (cs : List Char) : Next :=
  match until? '>' cs with
  | some (_, rest) => .tokens [.aside] rest none
  | none => .unfinished

def isEndNameChar (c : Char) : Bool := isAlnum c || c = '-' || c = '.' || c = ':' || c = '_'

/-- An end tag in its exact form, from behind its slash: name and what is left. -/
def endTag? (cs : List Char) : Option (List Char × List Char) :=
  match cs.dropWhile Text.isBlank with
  | c :: cs =>
    if isLetter c then
      (closedAfter? (cs.dropWhile isEndNameChar)).map fun rest =>
        (c :: cs.takeWhile isEndNameChar, rest)
    else none
  | [] => none

def scanEndTag (cs : List Char) : Next :=
  match until? '>' cs with
  | none => .unfinished
  | some (_, afterBracket) =>
    match endTag? cs with
    | some (name, rest) => .tokens [.closing (Text.lower (.ofList name))] rest none
    | none =>
      match cs with
      | c :: _ =>
        if isLetter c then
          let name := cs.takeWhile (!endsTagName ·)
          .tokens [.closing (Text.lower (.ofList name))] afterBracket none
        else if c = '>' then .tokens [] afterBracket none
        else .tokens [.aside] afterBracket none
      | [] => .unfinished

def scanAngle (cs : List Char) : Next :=
  match cs with
  | '<' :: '/' :: rest => scanEndTag rest
  | '<' :: '!' :: '-' :: '-' :: rest =>
    match afterComment? rest with
    | some rest => .tokens [.aside] rest none
    | none => .unfinished
  | '<' :: '?' :: rest => bogus rest
  | '<' :: '!' :: '[' :: rest => markedSection cs rest
  | '<' :: '!' :: rest => bogus rest
  | '<' :: c :: rest =>
    if isLetter c then
      match scanTag (c :: rest) with
      | .whole name attributes closed rest =>
        if closed then .tokens [.single name attributes] rest none
        else .tokens [.opening name attributes] rest (if isRaw name then some name else none)
      | .stray rest => .tokens [.text (cs.take (cs.length - rest.length))] rest none
      | .unfinished => .unfinished
    else .tokens [.text ['<']] (c :: rest) none
  | cs => .stop [] cs

/-- The name of a reference in running text and what is left: the name needs an end, which at the
end of the input a hyphen or a point inside it can be. -/
def referenceName? (cs : List Char) : Option (List Char × List Char) :=
  let p := fun c => isAlnum c || c = '-' || c = '.'
  let name := cs.takeWhile p
  match cs.dropWhile p with
  | ';' :: rest => some (name, rest)
  | c :: rest => some (name, c :: rest)
  | [] =>
    let tail := (name.reverse.takeWhile isAlnum).reverse
    let head := name.take (name.length - tail.length - 1)
    if tail.length < name.length && !head.isEmpty then some (head, name.drop head.length) else none

/-- What begins with an ampersand in running text. `final` says that nothing more will come. -/
def scanAmpersand (final : Bool) (cs : List Char) : Next :=
  match cs with
  | '&' :: '#' :: rest =>
    let hex := match rest with
      | 'x' :: _ | 'X' :: _ => true
      | _ => false
    let body := if hex then rest.drop 1 else rest
    let isDigit := if hex then isHexDigit else Char.isDigit
    let ds := body.takeWhile isDigit
    let number := if hex then ofHex ds else ofDecimalDigits ds
    let token := Token.text [numberedInText number]
    match ds, body.dropWhile isDigit with
    | _ :: _, ';' :: after => .tokens [token] after none
    | _ :: _, c :: after =>
      if isHexDigit c then
        if rest.contains ';' then .stop [.text ['&', '#']] rest else .stop [] cs
      else .tokens [token] (c :: after) none
    | _, _ => if rest.contains ';' then .stop [.text ['&', '#']] rest else .stop [] cs
  | ['&'] => .stop [] cs
  | '&' :: c :: rest =>
    if isLetter c then
      match referenceName? (c :: rest) with
      | some (name, rest) =>
        .tokens [.text ((named? (.ofList name)).getD ('&' :: name))] rest none
      | none => if final && rest.isEmpty then .stop [] [c] else .stop [] cs
    else .tokens [.text ['&']] (c :: rest) none
  | cs => .stop [] cs

/-- What follows the end tag of an element, its name in any case. -/
def endTagOf? (name : String) (cs : List Char) : Option (List Char) :=
  match cs with
  | '<' :: '/' :: cs =>
    match endTag? cs with
    | some (n, rest) => if Text.lower (.ofList n) = name then some rest else none
    | none => none
  | _ => none

/-- The raw content of an element up to its end tag. -/
def rawContent? (name : String) : List Char → Option (List Char × List Char)
  | [] => none
  | c :: cs =>
    match endTagOf? name (c :: cs) with
    | some rest => some ([], rest)
    | none => (rawContent? name cs).map fun (before, after) => (c :: before, after)

def textToken (cs : List Char) : List Token := if cs.isEmpty then [] else [.text cs]

/-- In a last go, what looks unfinished is text up to the next bracket. -/
def giveUp (cs : List Char) : List Char × List Char :=
  match cs with
  | [] => ([], [])
  | c :: cs =>
    match until? '>' cs with
    | some (before, after) => (c :: before ++ ['>'], after)
    | none =>
      if cs.contains '<' then (c :: cs.takeWhile (· != '<'), cs.dropWhile (· != '<'))
      else ([c], cs)

/-- Where a go over the input ended: what is left and whose raw content it is. -/
structure Left where
  rest : List Char
  raw : Option String

/-- One go over the input, adding to the tokens in reverse. -/
def go (final : Bool) : Nat → Option String → List Char → List Token →
    Except String (List Token × Left)
  | 0, raw, cs, done => .ok (done, ⟨cs, raw⟩)
  | fuel + 1, raw, cs, done =>
    match raw with
    | some name =>
      match rawContent? name cs with
      | some (content, rest) =>
        go final fuel none rest (.closing name :: textToken content ++ done)
      | none => .ok (done, ⟨cs, raw⟩)
    | none =>
      let p := fun c => c != '<' && c != '&'
      let done := textToken (cs.takeWhile p) ++ done
      match cs.dropWhile p with
      | [] => .ok (done, ⟨[], none⟩)
      | c :: rest =>
        match if c = '<' then scanAngle (c :: rest) else scanAmpersand final (c :: rest) with
        | .tokens ts rest raw => go final fuel raw rest (ts.reverse ++ done)
        | .stop ts rest => .ok (ts.reverse ++ done, ⟨rest, none⟩)
        | .rejected message => .error message
        | .unfinished =>
          if final then
            let (text, rest) := giveUp (c :: rest)
            go final fuel none rest (.text text :: done)
          else .ok (done, ⟨c :: rest, none⟩)

/-- All tokens of a text. After the last go what is left is text, unless it is the content of an
element that is never closed. -/
def tokens (cs : List Char) : Except String (List Token) := do
  let (done, left) ← go false (cs.length + 1) none cs []
  let (done, left) ← go true (cs.length + 1) left.raw left.rest done
  pure ((if left.raw.isSome then done else textToken left.rest ++ done).reverse)

end LinkShelf.Html

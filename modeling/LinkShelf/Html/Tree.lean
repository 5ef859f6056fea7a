import LinkShelf.Html.Token
/-!
Markup as a tree. An element stays open until its own end tag, or that of an element around it;
an end tag that closes nothing is passed over.
-/
namespace LinkShelf.Html

inductive Node where
  /-- Some text, and whether it belongs to the text of the elements around it. -/
  | text (s : String) (shown : Bool)
  | element (name : String) (attributes : Attributes) (children : List Node)
  deriving Repr

/-- Elements that never have content. -/
def voidNames : List String :=
  ["area", "base", "br", "col", "embed", "hr", "img", "input", "keygen", "link", "menuitem",
    "meta", "param", "source", "track", "wbr", "basefont", "bgsound", "command", "frame", "image",
    "isindex", "nextid", "spacer"]

/-- Elements whose text is not shown. -/
def hiddenNames : List String := ["rt", "rp", "style", "script", "template"]

def verbatimNames : List String := ["pre", "textarea"]

/-- An open element with its children so far, the last one first. -/
structure Frame where
  name : String
  attributes : Attributes
  done : List Node

/-- A tree under construction: the open elements from the innermost on, the nodes outside all of
them, text not yet put in, and the void elements whose end tag may still come. -/
structure Builder where
  stack : List Frame := []
  top : List Node := []
  pending : List (List Char) := []
  voids : List String := []

namespace Builder

def isOpen (b : Builder) (names : List String) : Bool := b.stack.any (·.name ∈ names)

def add (n : Node) (b : Builder) : Builder :=
  match b.stack with
  | [] => { b with top := n :: b.top }
  | f :: fs => { b with stack := { f with done := n :: f.done } :: fs }

def isSpace (c : Char) : Bool := c = ' ' || c = '\n' || c = '\t' || c = '\x0c' || c = '\r'

/-- Text that is only blanks shrinks to one: a line break if it has any, else a space. -/
def shrink (b : Builder) (cs : List Char) : List Char :=
  if cs.all isSpace && !b.isOpen verbatimNames then if cs.contains '\n' then ['\n'] else [' ']
  else cs

def flush (b : Builder) : Builder :=
  if b.pending.isEmpty then b
  else
    let cs := b.shrink b.pending.reverse.flatten
    { b with pending := [] }.add (.text (.ofList cs) !(b.isOpen hiddenNames))

def push (name : String) (attributes : Attributes) (b : Builder) : Builder :=
  { b with stack := ⟨name, attributes, []⟩ :: b.stack }

def pop (b : Builder) : Builder :=
  match b.stack with
  | [] => b
  | f :: fs => { b with stack := fs }.add (.element f.name f.attributes f.done.reverse)

/-- Closes elements from the innermost on up to one of the name. -/
def popTo (name : String) : Nat → Builder → Builder
  | 0, b => b
  | fuel + 1, b =>
    match b.stack with
    | [] => b
    | f :: _ => if f.name = name then b.pop else popTo name fuel b.pop

def close (name : String) (b : Builder) : Builder :=
  if b.isOpen [name] then popTo name b.stack.length b else b

/-- An end tag; one that belongs to a void element already closed is used up. -/
def endTag (name : String) (b : Builder) : Builder :=
  if name ∈ b.voids then { b with voids := b.voids.erase name } else b.flush.close name

def step (b : Builder) : Token → Builder
  | .text cs => { b with pending := cs :: b.pending }
  | .opening name attributes =>
    let b := b.flush.push name attributes
    if name ∈ voidNames then { b.close name with voids := b.voids ++ [name] } else b
  | .single name attributes => (b.flush.push name attributes).endTag name
  | .closing name => b.endTag name
  | .aside => b.flush
  | .section_ cs =>
    let b := b.flush
    b.add (.text (.ofList (b.shrink cs)) true)

def finish (b : Builder) : List Node :=
  let b := b.flush
  (b.stack.foldl (fun b _ => b.pop) b).top.reverse

end Builder

def nodes (ts : List Token) : List Node := (ts.foldl Builder.step {}).finish

mutual

/-- The shown text of a node. -/
def Node.shownText : Node → String
  | .text s shown => if shown then s else ""
  | .element _ _ children => shownTexts children

def shownTexts : List Node → String
  | [] => ""
  | n :: ns => n.shownText ++ shownTexts ns

end

mutual

def Node.holds (name : String) : Node → Bool
  | .text _ _ => false
  | .element n _ children => n = name || anyHolds name children

def anyHolds (name : String) : List Node → Bool
  | [] => false
  | n :: ns => n.holds name || anyHolds name ns

end

/-- The value of an attribute; the last one of its name counts. -/
def Attributes.get? (as : Attributes) (name : String) : Option String := as.reverse.lookup name

end LinkShelf.Html

import LinkShelf.Json.Reader
import LinkShelf.Plan.Step
import LinkShelf.Text.Trim
/-!
From the reply of a language model to a plan. The plan may stand in a fenced block, bare, or
inside the envelope of a provider, and envelopes may be nested up to a depth.
-/
namespace LinkShelf.Reply

def fence : List Char := List.replicate 3 (Char.ofNat 96)

/-- What stands before the first fence and what follows it. -/
def cutFence : List Char → Option (List Char × List Char)
  | [] => none
  | c :: cs =>
    if fence.isPrefixOf (c :: cs) then some ([], (c :: cs).drop 3)
    else (cutFence cs).map fun (before, after) => (c :: before, after)

def isLetter (c : Char) : Bool := ('a' ≤ c && c ≤ 'z') || ('A' ≤ c && c ≤ 'Z')

def dropNewline : List Char → List Char
  | '\n' :: cs => cs
  | cs => cs

/-- The content of the first fenced block, without its language tag and one newline at each
end. -/
def fenced? (cs : List Char) : Option (List Char) := do
  let (_, body) ← cutFence cs
  let (content, _) ← cutFence (dropNewline (body.dropWhile isLetter))
  pure (dropNewline content.reverse).reverse

/-- Whether a text has the brackets of an object or a list at its ends. -/
def bracketed (cs : List Char) : Bool :=
  match cs.head?, cs.getLast? with
  | some '\x7b', some '\x7d' => true
  | some '[', some ']' => true
  | _, _ => false

/-- The part of a reply that should be JSON: a fenced block, or all of it if it looks like
JSON. -/
def payload? (text : String) : Option String :=
  match fenced? text.toList with
  | some cs => some (.ofList cs)
  | none =>
    let cs := Text.trimChars text.toList
    if bracketed cs then some (.ofList cs) else none

/-- One step into a value: a member or an item. -/
inductive Hop where
  | member (name : String)
  | item (index : Nat)
  deriving DecidableEq, Repr

def follow : List Hop → Json → Option Json
  | [], v => some v
  | .member name :: hops, v => v.get? name >>= follow hops
  | .item i :: hops, v => v.at? i >>= follow hops

def geminiPath : List Hop :=
  [.member "candidates", .item 0, .member "content", .member "parts", .item 0, .member "text"]

def chatPath : List Hop := [.member "choices", .item 0, .member "message", .member "content"]

/-- The text at a place, empty where there is none. -/
def textAt (path : List Hop) (v : Json) : String := ((follow path v).bind Json.str?).getD ""

def envelopePaths : List (List Hop) :=
  [geminiPath, chatPath, [.member "response"], [.member "text"], [.member "content"]]

/-- The text inside the envelope of a provider. -/
def envelope? (v : Json) : Option String :=
  envelopePaths.findSome? fun path => follow path v >>= Json.str?

/-- What of a reply is read as JSON: its payload, or all of it. -/
def candidate (text : String) : String :=
  match payload? text with
  | some s => if s = "" then text else s
  | none => text

/-- The value of a reply that is no envelope. -/
def ownValue (text : String) : Except Fault Json :=
  match Json.parse (candidate text) with
  | .ok v => .ok v
  | .error e => .error (.plan ("Agent response is not valid JSON: " ++ e.trouble.message))

/-- The reply inside an envelope. A step is none, and where the payload cannot be read, all of the
reply may be one. -/
def inner? (text : String) : Option String :=
  match Json.parse (candidate text) with
  | .ok v => if (v.get? "action").isSome then none else envelope? v
  | .error _ => (Json.parse (Text.trim text)).toOption.bind envelope?

/-- The value of a reply, unwrapping at most so many envelopes. -/
def decode : Nat → String → Except Fault Json
  | 0, text => ownValue text
  | depth + 1, text =>
    match inner? text with
    | some inner => decode depth inner
    | none => ownValue text

/-- The steps of a value: of each item of a list, or of the value alone. What is no step is
dropped. -/
def stepsOf : List Json → Except Fault Plan
  | [] => .ok []
  | .obj ms :: vs =>
    match Members.get ms "action" with
    | .str _ => do
      let step ← Step.ofMembers ms
      pure (step.toList ++ (← stepsOf vs))
    | _ => stepsOf vs
  | _ :: vs => stepsOf vs

def itemsOf : Json → List Json
  | .arr items => items
  | v => [v]

/-- Envelopes are unwrapped three deep unless said otherwise. -/
def defaultDepth : Nat := 3

/-- The plan of a reply, which has at least one step. -/
def plan (depth : Nat) (text : String) : Except Fault Plan :=
  if Text.blank text then .error (.plan "No valid response from LLM.")
  else do
    match ← stepsOf (itemsOf (← decode depth text)) with
    | [] => .error (.plan "Unable to interpret agent response.")
    | steps => pure steps

end LinkShelf.Reply

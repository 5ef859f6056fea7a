import LinkShelf.Model.Provider
import LinkShelf.Text.Find
import LinkShelf.Text.Word
/-!
Keys of hosted providers: what a key looks like, and how a text is kept from showing one.
-/
namespace LinkShelf.Key

/-- How the keys of a provider look: how they start, how long they are at least, and whether they
have exactly that length. -/
structure Shape where
  start : String
  length : Nat
  exact : Bool
  deriving Repr

def shape? : String → Option Shape
  | "gemini" => some ⟨"AIza", 39, true⟩
  | "openai" => some ⟨"sk-", 23, false⟩
  | "grok" => some ⟨"xai-", 24, false⟩
  | _ => none

def isKeyChar (c : Char) : Bool := c = '-' || Text.isWord c

/-- One line break may end a key. -/
def dropLineEnd (cs : List Char) : List Char :=
  match cs.reverse with
  | '\n' :: rest => rest.reverse
  | _ => cs

/-- Whether a key has the form of its provider from start to end. -/
def Shape.fits (s : Shape) (key : String) : Bool :=
  let body := dropLineEnd key.toList
  s.start.toList.isPrefixOf body && (body.drop s.start.length).all isKeyChar &&
    if s.exact then body.length = s.length else s.length ≤ body.length

inductive Problem where
  | empty
  | unknownProvider (name : String)
  | short (minimum : Nat)
  | start (expected : String)
  | form
  deriving DecidableEq, Repr

def Problem.message : Problem → String
  | .empty => "API key is empty"
  | .unknownProvider name => "Unknown provider: " ++ name
  | .short n => "API key too short (minimum " ++ toString n ++ " characters)"
  | .start s => "API key should start with '" ++ s ++ "'"
  | .form => "API key format is invalid"

/-- What is wrong with a key, if anything. Providers that take no key accept everything. -/
def problem? (provider : String) (key : Option String) : Option Problem :=
  if Provider.keyless provider then none
  else match key.getD "" with
    | "" => some .empty
    | key =>
      match shape? provider with
      | none => some (.unknownProvider provider)
      | some s =>
        if key.length < s.length then some (.short s.length)
        else if !Text.startsWith key s.start then some (.start s.start)
        else if s.fits key then none
        else some .form

/-- The first six and the last three characters of a key; nothing of a key that is short. -/
def hint (key : String) : String :=
  let cs := key.toList
  if cs.length < 10 then "***"
  else .ofList (cs.take 6) ++ "..." ++ .ofList (cs.drop (cs.length - 3))

/-- A message with each key in it, one after the other, replaced by its hint. -/
def mask (message : String) (keys : List String) : String :=
  keys.foldl (fun m key => if key = "" then m else Text.replace m key (hint key)) message

end LinkShelf.Key

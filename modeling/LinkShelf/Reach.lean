import LinkShelf.Act
import LinkShelf.Bookmark.Basic
/-!
Whether the address of a bookmark still answers. Servers are first asked for the head of a page;
those that refuse to give one are asked for the page itself.
-/
namespace LinkShelf

inductive Probe where
  | head
  | page
  deriving DecidableEq, Repr

namespace Probe

def name : Probe → String
  | .head => "head"
  | .page => "get"

/-- A page is not read, so it is left on the line. -/
def streams : Probe → Bool
  | .head => false
  | .page => true

end Probe

inductive Visit where
  | asked (what : Probe) (url : String) (timeout : Json)
  | closed (url : String)
  deriving Repr

/-- A round of visits to servers that answer with a status or a failure. -/
structure Reach where
  answers : Probe → String → Except Fault Int
  timeout : Json := .float (.ofRatio false 10 1)
  visits : List Visit := []

namespace Reach

abbrev Act := LinkShelf.Act Reach

abbrev run {α : Type} (act : Act α) (r : Reach) : Except Fault α × Reach :=
  LinkShelf.Act.run act r

def headers : List (String × String) :=
  [("User-Agent", "Mozilla/5.0 (compatible; BookmarkAgent/1.0)"), ("Accept", "*/*")]

/-- How often a broken line is set up anew. -/
def retries : Nat := 1

def schemes : List String := ["http://", "https://"]

def ask (what : Probe) (url : String) : Act Int := do
  let r ← get
  set { r with visits := r.visits ++ [Visit.asked what url r.timeout] }
  r.answers what url

def close (url : String) : Act Unit :=
  modify fun r => { r with visits := r.visits ++ [Visit.closed url] }

/-- Answers of servers that refuse to give a head. -/
def refusals : List Int := [405, 501]

def statusOf (url : String) : Act Int := do
  let status ← ask .head url
  if status ∈ refusals then
    let status ← ask .page url
    close url
    pure status
  else pure status

def verdict (status : Int) : UrlStatus :=
  if 200 ≤ status ∧ status < 400 then .valid else .invalid

/-- Whether an address answers. A blank one needs no answer, and no answer is a bad one. -/
def check (url : Json) : Act UrlStatus := do
  if (← Bookmark.trimmed url) = "" then pure .valid
  else
    tryCatch (verdict <$> statusOf url.text) fun f =>
      if f.family? = some .reach then pure .invalid else throw f

/-- Puts the status of an identifier in the place it has, or at the end. -/
def put (id : String) (status : UrlStatus) : List (String × UrlStatus) → List (String × UrlStatus)
  | [] => [(id, status)]
  | (k, s) :: rest => if k = id then (k, status) :: rest else (k, s) :: put id status rest

def checkFrom (found : List (String × UrlStatus)) :
    List Bookmark → Act (List (String × UrlStatus))
  | [] => pure found
  | b :: bs =>
    match b.id with
    | none => checkFrom found bs
    | some id =>
      if id = "" ∨ b.status = .ignored then checkFrom found bs
      else do checkFrom (put id (← check b.url) found) bs

/-- The status of every bookmark that has an identifier and is not to be ignored. -/
def checkAll (bs : List Bookmark) : Act (List (String × UrlStatus)) := checkFrom [] bs

end Reach

/-- The patch that notes the outcome of a check. -/
def UrlStatus.patch (s : UrlStatus) : Members :=
  [("urlStatus", .str s.name), ("unreachable", .bool (s = .invalid))]

end LinkShelf

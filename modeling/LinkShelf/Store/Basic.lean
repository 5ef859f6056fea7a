import LinkShelf.Act
import LinkShelf.Exchange.Text
import LinkShelf.File.Disk
/-!
A shelf is an ordered collection of bookmarks together with what its operations touch: the disk,
the ids still to be given out, the failures that are due, and the notices sent to listeners.
-/
namespace LinkShelf

/-- Who is told about changes. -/
inductive Listener where
  | agent
  | other (name : String)
  deriving DecidableEq, Repr

/-- The whole collection as a listener got it. -/
structure Notice where
  listener : Listener
  collection : List Bookmark
  deriving Repr

/-- Where a collection is kept besides in memory. -/
inductive Medium where
  | memory
  | file (path : Path) (indent : Json.Indent)
  deriving Repr

/-- The operations, and the parts of saving, that can be made to fail. -/
inductive Call where
  | load
  | list
  | fetch
  | create
  | update
  | remove
  | removeAll
  | replaceAll
  | reorder
  | saveSorted
  | save
  | makeFolders
  | writeDraft
  | moveDraft
  deriving DecidableEq, Repr

structure Shelf where
  name : String := "memory"
  medium : Medium := .memory
  /-- Whether an order can be stored as such. -/
  reorders : Bool := true
  items : List Bookmark := []
  listeners : List Listener := []
  notices : List Notice := []
  disk : Disk := {}
  /-- Ids for bookmarks that have none, and how many of them are given out. -/
  supply : Nat → String
  drawn : Nat := 0
  /-- What the next calls of each operation meet: nothing, or a failure instead of the call. -/
  outages : Call → List (Option Fault) := fun _ => []

namespace Shelf

abbrev Act := LinkShelf.Act Shelf

abbrev run {α : Type} (act : Act α) (s : Shelf) : Except Fault α × Shelf :=
  LinkShelf.Act.run act s

def setOutages (c : Call) (outcomes : List (Option Fault)) (s : Shelf) : Shelf :=
  { s with outages := fun d => if d = c then outcomes else s.outages d }

/-- A call that meets what is due for it. -/
def meeting {α : Type} (c : Call) (act : Act α) : Act α := do
  match (← get).outages c with
  | [] => act
  | outcome :: rest =>
    modify (setOutages c rest)
    match outcome with
    | some f => throw f
    | none => act

/-- From now on so many calls go through, then so many fail; these do not count for what was due
before. -/
def addOutage (c : Call) (after times : Nat) (f : Fault) (s : Shelf) : Shelf :=
  let due := s.outages c
  let passed := due.take after
  s.setOutages c (passed ++ List.replicate (after - passed.length) none ++
    List.replicate times (some f) ++ due.drop after)

def drawId : Act String := do
  let s ← get
  set { s with drawn := s.drawn + 1 }
  pure (s.supply s.drawn)

/-- The id of a bookmark, or a new one if it has none or one that is taken. -/
def idFor (b : Bookmark) (taken : String → Bool) : Act String :=
  let given := b.id.getD ""
  if given = "" ∨ taken given then drawId else pure given

/-- Gives an id to each bookmark that has none or one already seen. -/
def identify (seen : List String) : List Bookmark → Act (List Bookmark)
  | [] => pure []
  | b :: bs => do
    let id ← idFor b seen.contains
    pure (b.underId id :: (← identify (id :: seen) bs))

/-- Each bookmark with its place in the list. -/
def numbered (bs : List Bookmark) : List Bookmark :=
  bs.zipIdx.map fun (b, i) => { b with position := .int i }

def fault (s : Shelf) (kind : StoreFault) (text : String) (cause : Option Fault) : Fault :=
  .store kind text (some s.name) cause

def diskFault (s : Shelf) (kind : StoreFault) (text : String) (f : Fault) : Fault :=
  match f.family? with
  | some .system => s.fault kind text (some f)
  | _ => f

def onDisk (f : Disk → Except Fault Disk) : Act Unit := do
  let s ← get
  match f s.disk with
  | .ok disk => set { s with disk }
  | .error e => throw e

/-- Writes a file beside the target and puts it in the place of the target. -/
def writeOver (path : Path) (text : String) : Act Unit := do
  let draft := path.extend ".tmp"
  meeting .makeFolders (onDisk (·.makeFolders path.parent))
  meeting .writeDraft (onDisk (·.writeText draft text))
  meeting .moveDraft (onDisk (·.moveFile draft path))

/-- Keeps the collection where the medium says. -/
def save : Act Unit := meeting .save do
  let s ← get
  match s.medium with
  | .memory => pure ()
  | .file path indent =>
    tryCatch (writeOver path (Exchange.toJsonText indent s.items)) fun f =>
      throw (s.diskFault .write ("Failed to write " ++ path.text) f)

/-- Tells all listeners about the collection, in the order in which they came. -/
def notify : Act Unit :=
  modify fun s => { s with
    notices := s.notices ++ s.listeners.map fun listener => ⟨listener, s.items⟩ }

def place (items : List Bookmark) : Act Unit := modify ({ · with items := numbered items })

/-- Makes a list the collection, saves it and tells. The collection before comes back, numbered
again, when it cannot be saved. -/
def commit (items : List Bookmark) : Act Unit := do
  let before := (← get).items
  place items
  tryCatch save fun f => do
    place before
    throw f
  notify

def readItems (s : Shelf) (path : Path) : Except Fault (List Json) := do
  let failed := "Failed to read " ++ path.text
  match s.disk.readText path with
  | .error f => .error (s.diskFault .read failed f)
  | .ok text =>
    match Json.parse text with
    | .error e =>
      .error (s.fault .read failed (some (.foreign .badValue "JSONDecodeError" e.message)))
    | .ok (.arr items) => pure items
    | .ok _ =>
      .error (s.fault .read ("Expected a JSON array of bookmarks in " ++ path.text) none)

def stored (s : Shelf) (path : Path) : Except Fault (List Bookmark) := do
  if ← s.disk.exists? path then Exchange.ofItems (← s.readItems path) else pure []

def load : Act Unit := meeting .load do
  let s ← get
  match s.medium with
  | .memory => pure ()
  | .file path _ =>
    let bs ← s.stored path
    place (← identify [] bs)

def fill (bs : List Bookmark) : Act Unit := do place (← identify [] bs)

def subscribe (l : Listener) (s : Shelf) : Shelf := { s with listeners := s.listeners ++ [l] }

/-- Drops the first entry of a listener. -/
def unsubscribe (l : Listener) (s : Shelf) : Shelf := { s with listeners := s.listeners.erase l }

end Shelf

end LinkShelf

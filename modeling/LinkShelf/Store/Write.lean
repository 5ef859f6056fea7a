import LinkShelf.Store.Basic
/-!
Reading and changing the collection of a shelf. Each write commits once or leaves the collection
as it was.
-/
namespace LinkShelf.Shelf

def missing (s : Shelf) (id : String) : Fault :=
  s.fault .missing ("No bookmark with id " ++ id) none

def hasId (id : String) (b : Bookmark) : Bool := b.id = some id

/-- The whole collection in its order. -/
def list : Act (List Bookmark) := meeting .list do pure (← get).items

/-- What the shelf holds under an id. -/
def lookUp (id : String) : Act Bookmark := do
  let s ← get
  match s.items.find? (hasId id) with
  | some b => pure b
  | none => throw (s.missing id)

def fetch (id : String) : Act Bookmark := meeting .fetch (lookUp id)

def newest : Act Bookmark := do pure ((← get).items.getLast?.getD {})

/-- Puts a bookmark at the end, under an id of its own. -/
def create (now : String) (b : Bookmark) : Act Bookmark := meeting .create do
  let items := (← get).items
  let id ← idFor b fun id => items.any (hasId id)
  commit (items ++
    [{ b.underId id with
      createdAt := b.createdAt.orElse (.str now), updatedAt := .str now }])
  newest

def update (now id : String) (patch : Members) : Act Bookmark := meeting .update do
  let b ← lookUp id
  let changed ← b.patch patch
  let items := (← get).items
  commit (items.map fun c => if hasId id c then { changed with updatedAt := .str now } else c)
  lookUp id

def remove (id : String) : Act Unit := meeting .remove do
  let _ ← lookUp id
  let items := (← get).items
  commit (items.eraseP (hasId id))

def replaceAll (bs : List Bookmark) : Act (List Bookmark) := meeting .replaceAll do
  commit (← identify [] bs)
  pure (← get).items

/-- The bookmarks of the given ids in their order, then all others. -/
def arranged (ids : List String) (items : List Bookmark) : List Bookmark :=
  let named := ids.eraseDups.filterMap fun id => items.find? (hasId id)
  named ++ items.filter fun b => !ids.any (hasId · b)

/-- Stores an order. Unknown ids are passed over, and what is not named keeps its order at the
end. -/
def reorder (ids : List String) : Act Unit := meeting .reorder do
  let s ← get
  if s.reorders then commit (arranged ids s.items)
  else throw (.unsupported (s.name ++ " does not support reordering"))

end LinkShelf.Shelf

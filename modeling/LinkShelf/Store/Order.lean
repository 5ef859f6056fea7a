import LinkShelf.Sorting
import LinkShelf.Store.Write
/-!
Storing a sorted order of the whole collection.
-/
namespace LinkShelf.Shelf

def sortedIds (c : Criterion) (bs : List Bookmark) : Except Fault (List String) := do
  pure ((← Bookmark.sortBy c bs).filterMap fun b =>
    match b.id with
    | some "" => none
    | id => id)

/-- Sorts the collection and stores the order. -/
def saveSorted (c : Criterion) : Act (List String) := meeting .saveSorted do
  let ids ← sortedIds c (← list)
  reorder ids
  pure ids

/-- Stores a sorted order in whichever way the shelf can. -/
def saveOrderAnyway (c : Criterion) : Act (List String) := do
  let ids ← sortedIds c (← list)
  tryCatch (do reorder ids; pure ids) fun f =>
    if f.family? = some .unsupported then saveSorted c else throw f

/-- Stores a sorted order. Whatever goes wrong is a failed write. -/
def saveOrder (c : Criterion) : Act (List String) := do
  let s ← get
  tryCatch (saveOrderAnyway c) fun f =>
    throw (if f.isStoreWrite then f else s.fault .write "Failed to persist new order" (some f))

end LinkShelf.Shelf

import LinkShelf.Store.Write
/-!
Removing several bookmarks one by one. What cannot be removed is accounted for, and the rest is
removed all the same.
-/
namespace LinkShelf

/-- What became of the ids that were to be removed. -/
structure Removal where
  total : Nat := 0
  succeeded : Nat := 0
  /-- Ids that are still there or never were, with the reason. -/
  failures : List (String × String) := []
  deriving DecidableEq, Repr

namespace Removal

def failed (r : Removal) : Nat := r.failures.length

def describe (r : Removal) : String :=
  "BulkRemoveResult(total=" ++ toString r.total ++ ", succeeded=" ++ toString r.succeeded ++
    ", failed=" ++ toString r.failed ++ ")"

end Removal

namespace Shelf

/-- One removal, added to an account. -/
def removeOne (r : Removal) (id : String) : Act Removal :=
  tryCatch (do remove id; pure { r with total := r.total + 1, succeeded := r.succeeded + 1 })
    fun f =>
      if f.isStoreWrite then
        pure { r with total := r.total + 1, failures := r.failures ++ [(id, f.message)] }
      else throw f

def removeAll (ids : List String) : Act Removal := meeting .removeAll (ids.foldlM removeOne {})

end Shelf

end LinkShelf

import LinkShelf.Agent.Session
/-!
Deleting what a request has staged, once the user confirms it.
-/
namespace LinkShelf.Session

/-- Removes the staged bookmarks and takes the collection anew. -/
def deletePending (ids : List String) : Act Nat := do
  let removal ← onShelf (Shelf.removeAll ids)
  let bs ← onShelf Shelf.list
  modify (withSnapshot bs)
  modify cancel
  modify (say ("Deleted " ++ toString removal.succeeded ++ " bookmark(s).") .success)
  pure removal.succeeded

/-- Deletes what is staged and says how many went. After it nothing is staged. -/
def confirm : Act Nat := do
  let ids := (← get).pending
  if ids.isEmpty then pure 0
  else
    tryCatch (deletePending ids) fun f => do
      modify cancel
      if !f.isStore then throw f
      modify (record f)
      modify (say (Report.ofFault f).userMessage .error)
      pure 0

end LinkShelf.Session

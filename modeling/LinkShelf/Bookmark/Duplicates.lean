import LinkShelf.Bookmark.Basic
/-!
Duplicate bookmarks: two bookmarks with the same title and address, blanks at the ends and case
aside. The first of them stays.
-/
namespace LinkShelf.Bookmark

/-- A field as a part of the key; unlike for display, an unset one is not looked up elsewhere. -/
def keyPart (v : Json) : Except Fault String := do pure (Text.lower (← trimmed v))

def duplicateKey (b : Bookmark) : Except Fault (String × String) := do
  let title ← keyPart b.title
  pure (title, ← keyPart b.url)

/-- Ids of the bookmarks whose key was seen before. -/
def duplicatesAfter (seen : List (String × String)) :
    List Bookmark → Except Fault (List String)
  | [] => .ok []
  | b :: bs => do
    let key ← b.duplicateKey
    if key ∈ seen then
      let rest ← duplicatesAfter seen bs
      pure (match b.id with
        | some id => if id = "" then rest else id :: rest
        | none => rest)
    else duplicatesAfter (key :: seen) bs

def duplicates (bs : List Bookmark) : Except Fault (List String) := duplicatesAfter [] bs

end LinkShelf.Bookmark

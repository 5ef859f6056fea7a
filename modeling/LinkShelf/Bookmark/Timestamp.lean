import LinkShelf.Bookmark.Basic
import LinkShelf.Time.Iso
/-!
The moment a field denotes, in seconds from the start of 1970.
-/
namespace LinkShelf.Bookmark

/-- Numbers are seconds already; a text is read as ISO 8601, a Z standing for UTC; what is unset
or unreadable is the start of 1970. -/
def timestamp (v : Json) : Except Fault Binary64 :=
  match v with
  | .int n => Json.wholeAsReal n
  | .float x => .ok x
  | v =>
    if v.isUnset then .ok .zero
    else .ok (match Iso.instant? (Text.replace (Text.trim v.text) "Z" "+00:00").toList with
      | some i => i.seconds
      | none => .zero)

end LinkShelf.Bookmark

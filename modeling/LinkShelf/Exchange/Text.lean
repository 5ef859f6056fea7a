import LinkShelf.Exchange.Format
import LinkShelf.Json.Reader
import LinkShelf.Json.Writer
import LinkShelf.Netscape.Reader
import LinkShelf.Netscape.Writer
/-!
Bookmarks as text: a JSON array of records, or a Netscape bookmark file.
-/
namespace LinkShelf.Exchange

/-- The bookmarks of a list of values; what is no object is skipped. -/
def ofItems : List Json → Except Fault (List Bookmark)
  | [] => .ok []
  | .obj ms :: vs => do
    let b ← Bookmark.ofRecord ms
    pure (b :: (← ofItems vs))
  | _ :: vs => ofItems vs

def ofJsonText (text : String) : Except Fault (List Bookmark) :=
  match Json.parse text with
  | .error e => .error (.exchange
      ("Error parsing JSON. Please ensure it is valid JSON (" ++ e.trouble.message ++ ")."))
  | .ok (.arr items) => ofItems items
  | .ok _ => .error (.exchange "Invalid JSON format. Expected an array of bookmarks.")

def toJsonText (indent : Json.Indent) (bs : List Bookmark) : String :=
  Json.render indent (.arr (bs.map Bookmark.toJson))

/-- Two spaces for each level unless said otherwise. -/
def defaultIndent : Json.Indent := some 2

def defaultTitle : String := "Bookmarks"

def read (f : Format) (now text : String) : Except Fault (List Bookmark) :=
  match f with
  | .json => ofJsonText text
  | .html => Netscape.read now text

def write (f : Format) (bs : List Bookmark) : Except Fault String :=
  match f with
  | .json => .ok (toJsonText defaultIndent bs)
  | .html => Netscape.write defaultTitle bs

end LinkShelf.Exchange

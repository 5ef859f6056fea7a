import LinkShelf.Exchange.Text
import LinkShelf.File.Disk
/-!
Bookmarks in files. The form of a file is told by its suffix, else by its content, unless the
caller names it.
-/
namespace LinkShelf.Exchange

/-- A refusal of the disk as a failed exchange. -/
def refused {α : Type} (lead : String) (r : Except Fault α) : Except Fault α :=
  r.mapError fun f =>
    match f.family? with
    | some .system => .exchange (lead ++ ": " ++ f.message)
    | _ => f

def readFile (d : Disk) (p : Path) : Except Fault String :=
  refused ("Error reading file " ++ p.text) (d.readText p)

def formatOfFile (d : Disk) (p : Path) : Except Fault Format :=
  match Format.ofPath? p with
  | some f => .ok f
  | none => do Format.ofContent (← d.readText p)

/-- The bookmarks of a file; any other name of a form than that of JSON means HTML. -/
def load (d : Disk) (now : String) (p : Path) (format : String) : Except Fault (List Bookmark) := do
  let text ← readFile d p
  let f ← if format = "json" then pure Format.json
    else if format ≠ "" then pure .html
    else match Format.ofPath? p with
      | some f => pure f
      | none => Format.ofText text
  read f now text

def loadHtml (d : Disk) (now : String) (p : Path) : Except Fault (List Bookmark) := do
  Netscape.read now (← readFile d p)

/-- The form to write, JSON where nothing tells. -/
def formatToSave (p : Path) (format : String) : Except Fault Format :=
  match format with
  | "" => .ok ((Format.ofPath? p).getD .json)
  | "json" => .ok .json
  | "html" => .ok .html
  | s => .error (.exchange ("Unsupported export format: " ++ s))

/-- The disk with the bookmarks written to a file, the folders above it made if need be. -/
def save (d : Disk) (p : Path) (format : String) (bs : List Bookmark) : Except Fault Disk := do
  let text ← write (← formatToSave p format) bs
  refused ("Failed to write " ++ p.text) (do (← d.makeFolders p.parent).writeText p text)

end LinkShelf.Exchange

import LinkShelf.Fault
import LinkShelf.File.Path
import LinkShelf.Text.Lower
import LinkShelf.Text.Trim
/-!
The two forms in which bookmarks are exchanged, and how a file or a text is told to be one.
-/
namespace LinkShelf

inductive Format where
  | json
  | html
  deriving DecidableEq, Repr

namespace Format

def ofSuffix? (suffix : String) : Option Format :=
  match Text.lower suffix with
  | ".json" => some .json
  | ".html" | ".htm" => some .html
  | _ => none

def ofPath? (p : Path) : Option Format := ofSuffix? p.suffix

/-- How much of a text is looked at. -/
def headLength : Nat := 1024

def unknown : Fault := .exchange "Unable to detect bookmark format (expected JSON or HTML)"

def ofContent (text : String) : Except Fault Format :=
  let head := Text.lower (.ofList ((text.toList.dropWhile Text.isBlank).take headLength))
  if Text.startsWith head "[" || Text.startsWith head "\x7b" then .ok .json
  else if Text.contains head "<!doctype netscape" || Text.contains head "<dl" ||
      Text.contains head "<a " then .ok .html
  else .error unknown

/-- Whether a text looks like the name of a file rather than like its content. -/
def looksLikeName (text : String) : Bool :=
  let start := Text.trimStart text
  !text.toList.contains '\n' && !text.toList.contains '<' && !Text.startsWith start "[" &&
    !Text.startsWith start "\x7b"

/-- The form that a text has, or that the file has which it names. -/
def ofText (text : String) : Except Fault Format :=
  match if looksLikeName text then ofPath? (.ofText (Text.trim text)) else none with
  | some f => .ok f
  | none => ofContent text

end Format

end LinkShelf

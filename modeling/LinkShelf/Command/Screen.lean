import LinkShelf.Agent.Session
/-!
What is put on the screen, before anything is said about layout: lines of styled text, tables,
panels, prompts and the notice that something is going on.
-/
namespace LinkShelf

/-- A piece of text, in a style or as it is. -/
inductive Span where
  | plain (text : String)
  | styled (style text : String)
  /-- The style goes on to the end of the line. -/
  | opened (style text : String)
  deriving DecidableEq, Repr

namespace Span

def markup : Span → String
  | .plain text => text
  | .styled style text => "[" ++ style ++ "]" ++ text ++ "[/" ++ style ++ "]"
  | .opened style text => "[" ++ style ++ "]" ++ text

def text : Span → String
  | .plain text | .styled _ text | .opened _ text => text

end Span

inductive Shown where
  | line (spans : List Span)
  | table (title : String) (columns : List String) (rows : List (List String))
  | panel (title text : String)
  | prompt (span : Span)
  | status (text : String)
  deriving DecidableEq, Repr

def Level.style : Level → String
  | .info => "cyan"
  | .success => "green"
  | .warning => "yellow"
  | .error => "bold red"

namespace Shown

def styled (style text : String) : Shown := .line [.styled style text]

def blank : Shown := .line []

def failure (f : Fault) : Shown := .line [.styled "bold red" "Error:", .plain (" " ++ f.message)]

def markup (spans : List Span) : String := String.join (spans.map Span.markup)

def helpText : String := "\n".intercalate
  ["Ask for what you want to see, for example:",
   "  show my 5 best rated javascript bookmarks",
   "  only bookmarks tagged python, newest first",
   "  sort by title and save the order",
   "  remove duplicates",
   "",
   "Requests stack on the current view until you reset it.",
   "Commands: :reset  :confirm  :cancel  :quit"]

def help : Shown := .panel "Bookmark Agent" helpText

def exchangeHint (action : String) : String :=
  if action = "importBookmarks" then
    "Restart with --input FILE to import bookmarks (JSON or Netscape HTML)."
  else "Use --export FILE to export the current view (.json or .html)."

def ofEvent : Event → Shown
  | .help => help
  | .exchange action => styled "cyan" (exchangeHint action)
  | .stage ids => styled "yellow" (toString ids.length ++ " bookmark(s) staged for deletion.")
  | .message m => styled m.level.style m.text

def columns : List String := ["#", "Title", "URL", "Folder", "Tags", "Rating", "Status"]

def stars (rating : Nat) : String := .ofList (List.replicate rating '*')

def row (number : Nat) (b : Bookmark) : Except Fault (List String) := do
  let textOr (v : Json) : String := (v.orElse (.str "")).text
  pure [toString number, ← b.effectiveTitle, textOr b.url, textOr b.folder,
    ", ".intercalate b.tags, stars b.rating, b.effectiveStatus.name]

/-- A screen without styles: cells stand between bars, and only a prompt leaves its line open. -/
def text : Shown → String
  | .line spans => String.join (spans.map Span.text) ++ "\n"
  | .table title columns rows =>
    "\n".intercalate (title :: (columns :: rows).map (" | ".intercalate ·)) ++ "\n"
  | .panel title text => title ++ "\n" ++ text ++ "\n"
  | .prompt span => span.text
  | .status text => text ++ "\n"

/-- A table of bookmarks with their numbers, from 1. -/
def ofBookmarks (bs : List Bookmark) : Except Fault Shown := do
  pure (.table ("Bookmarks (" ++ toString bs.length ++ ")") columns
    (← bs.zipIdx.mapM fun (b, i) => row (i + 1) b))

def ofPlan (p : Plan) : Shown := styled "dim" ("Plan: " ++ " -> ".intercalate (Plan.actions p))

def consentQuestion (count : Nat) : String :=
  "Delete " ++ toString count ++ " duplicate bookmark(s)?"

def askConsent (count : Nat) : Shown := .prompt (.plain (consentQuestion count ++ " [y/n]: "))

/-- What an answer that is neither yes nor no is met with. -/
def askAgain : Shown := .line [.opened "prompt.invalid" "Please enter Y or N"]

def askRequest : Shown := .prompt (.styled "bold cyan" "agent> ")

end Shown

end LinkShelf

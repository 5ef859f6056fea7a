import LinkShelf.File.Disk
import LinkShelf.Text.Upper
/-!
The journal: what happens, who says so and how much it weighs. Entries of too little weight are
left out.
-/
namespace LinkShelf

inductive Weight where
  | any
  | debug
  | info
  | warning
  | error
  | critical
  deriving DecidableEq, Repr

namespace Weight

def name : Weight → String
  | .any => "NOTSET"
  | .debug => "DEBUG"
  | .info => "INFO"
  | .warning => "WARNING"
  | .error => "ERROR"
  | .critical => "CRITICAL"

def number : Weight → Nat
  | .any => 0
  | .debug => 10
  | .info => 20
  | .warning => 30
  | .error => 40
  | .critical => 50

def named : List (String × Weight) :=
  [("NOTSET", .any), ("DEBUG", .debug), ("INFO", .info), ("WARN", .warning),
    ("WARNING", .warning), ("ERROR", .error), ("FATAL", .critical), ("CRITICAL", .critical)]

/-- A weight by its name in any case; any other name means that of plain news. -/
def ofName (s : String) : Weight := (named.lookup (Text.upper s)).getD .info

end Weight

structure Journal.Entry where
  source : String
  weight : Weight
  text : String
  deriving DecidableEq, Repr

structure Journal where
  path : Path
  least : Weight := .info
  /-- Whether the entries also go to the screen. -/
  echoed : Bool := false
  entries : List Journal.Entry := []
  deriving Repr

namespace Journal

def defaultFile : String := "bookmark_agent.log"

def defaultFolder (d : Disk) : Path := d.herePath.under (.ofText "logs")

def fileName (file moment : String) : String := (Path.ofText file).stem ++ "_" ++ moment ++ ".log"

/-- A moment in the name of a file, from its date and time: digits, with a bar between the two. -/
def momentOf (dateTime : String) : String :=
  let digits := dateTime.toList.filter Char.isDigit
  .ofList (digits.take 8 ++ '_' :: (digits.drop 8).take 6)

def timeOf (dateTime : String) : String :=
  .ofList ((dateTime.toList.take 19).map fun c => if c = 'T' then ' ' else c)

/-- Sources that talk a lot. -/
def talkative : List String := ["httpx", "httpcore", "urllib3", "requests"]

/-- A talkative source is heard from warnings on. -/
def leastFor (j : Journal) (source : String) : Weight :=
  if String.ofList (Text.cut '.' source.toList).1 ∈ talkative then .warning else j.least

def log (source : String) (weight : Weight) (text : String) (j : Journal) : Journal :=
  if (j.leastFor source).number ≤ weight.number then
    { j with entries := j.entries ++ [⟨source, weight, text⟩] }
  else j

def line (time : String) (e : Entry) : String :=
  " - ".intercalate [time, e.source, e.weight.name, e.text] ++ "\n"

/-- The entries as lines that start with the time. -/
def text (time : String) (j : Journal) : String := String.join (j.entries.map (line time))

def echo (time : String) (j : Journal) : String := if j.echoed then j.text time else ""

def outlets (j : Journal) : Nat := if j.echoed then 2 else 1

def ownSource : String := "bookmark_agent.utils.logging_setup"

/-- A new journal in a folder, which is made if need be. It starts with where it is and the name
of its weight as it was given. -/
def start (d : Disk) (folder : Path) (file moment weight : String) (echoed : Bool) :
    Except Fault (Journal × Disk) := do
  let d ← d.makeFolders folder
  let path := folder.under (.ofText (fileName file moment))
  let d ← d.writeText path ""
  let j : Journal := { path, least := .ofName weight, echoed }
  let j := j.log ownSource .info ("Bookmark Agent starting - Log file: " ++ path.text)
  pure (j.log ownSource .info ("Log level: " ++ weight), d)

def keep (time : String) (d : Disk) (j : Journal) : Except Fault Disk :=
  d.writeText j.path (j.text time)

end Journal

end LinkShelf

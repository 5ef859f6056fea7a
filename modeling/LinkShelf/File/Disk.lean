import LinkShelf.Fault
import LinkShelf.File.Path
/-!
Files and folders as data. An entry stands at the names that lead to it from the top; operations
that the disk refuses say why.
-/
namespace LinkShelf

inductive Entry where
  | file (text : String)
  | folder
  deriving DecidableEq, Repr

abbrev Location := List String

inductive Refusal where
  | missing
  | taken
  | notFolder
  | isFolder
  | longName
  | notEmpty
  /-- A null character is in the name. -/
  | nullName
  deriving DecidableEq, Repr

namespace Refusal

def name : Refusal → String
  | .missing => "FileNotFoundError"
  | .taken => "FileExistsError"
  | .notFolder => "NotADirectoryError"
  | .isFolder => "IsADirectoryError"
  | .longName | .notEmpty => "OSError"
  | .nullName => "ValueError"

def number : Refusal → Nat
  | .missing => 2
  | .taken => 17
  | .notFolder => 20
  | .isFolder => 21
  | .longName => 36
  | .notEmpty => 39
  | .nullName => 22

def reason : Refusal → String
  | .missing => "No such file or directory"
  | .taken => "File exists"
  | .notFolder => "Not a directory"
  | .isFolder => "Is a directory"
  | .longName => "File name too long"
  | .notEmpty => "Directory not empty"
  | .nullName => "embedded null byte"

def fault (r : Refusal) (path : String) : Fault :=
  match r with
  | .nullName => .badValue r.reason
  | r => .system r.name r.number r.reason path

end Refusal

structure Disk where
  here : Location := []
  home : Location := here
  entries : List (Location × Entry) := []
  deriving Repr, Inhabited

namespace Disk

def herePath (d : Disk) : Path := { root := "/", parts := d.here }

def homePath (d : Disk) : Path := { root := "/", parts := d.home }

def at? (d : Disk) (l : Location) : Option Entry :=
  if l.isPrefixOf d.here then some .folder else d.entries.lookup l

/-- Sets an entry, in place if there is one. -/
def put (d : Disk) (l : Location) (e : Entry) : Disk :=
  { d with entries :=
      if (d.entries.lookup l).isSome then
        d.entries.map fun (k, old) => if k = l then (k, e) else (k, old)
      else d.entries ++ [(l, e)] }

def erase (d : Disk) (l : Location) : Disk :=
  { d with entries := d.entries.filter fun (k, _) => k ≠ l }

def maxName : Nat := 255

def maxPath : Nat := 4095

/-- Follows names down from a location. All but the last must be folders. -/
def walk (d : Disk) (l : Location) : List String → Except Refusal Location
  | [] => .ok l
  | name :: rest =>
    match d.at? l with
    | none => .error .missing
    | some (.file _) => .error .notFolder
    | some .folder =>
      if name = ".." then walk d l.dropLast rest
      else if maxName < name.utf8ByteSize then .error .longName
      else walk d (l ++ [name]) rest

def locate (d : Disk) (p : Path) : Except Refusal Location :=
  if p.text.toList.contains '\x00' then .error .nullName
  else if maxPath < p.text.utf8ByteSize then .error .longName
  else d.walk (if p.isAbsolute then [] else d.here) p.parts

def find (d : Disk) (p : Path) : Except Refusal Entry := do
  match d.at? (← d.locate p) with
  | some e => pure e
  | none => .error .missing

def isFile? (d : Disk) (p : Path) : Except Fault Bool :=
  match d.find p with
  | .ok (.file _) => .ok true
  | .ok .folder => .ok false
  | .error .longName => .error (Refusal.longName.fault p.text)
  | .error _ => .ok false

def exists? (d : Disk) (p : Path) : Except Fault Bool :=
  match d.find p with
  | .ok _ => .ok true
  | .error .longName => .error (Refusal.longName.fault p.text)
  | .error _ => .ok false

def isFolder? (d : Disk) (p : Path) : Except Fault Bool :=
  match d.find p with
  | .ok .folder => .ok true
  | .ok (.file _) => .ok false
  | .error .longName => .error (Refusal.longName.fault p.text)
  | .error _ => .ok false

/-- Line ends as single newlines. -/
def unifyLines : List Char → List Char
  | [] => []
  | '\r' :: '\n' :: cs => '\n' :: unifyLines cs
  | '\r' :: cs => '\n' :: unifyLines cs
  | c :: cs => c :: unifyLines cs

def readText (d : Disk) (p : Path) : Except Fault String :=
  match d.find p with
  | .ok (.file s) => .ok (.ofList (unifyLines s.toList))
  | .ok .folder => .error (Refusal.isFolder.fault p.text)
  | .error r => .error (r.fault p.text)

def writeText (d : Disk) (p : Path) (text : String) : Except Fault Disk :=
  match d.locate p with
  | .error r => .error (r.fault p.text)
  | .ok l =>
    match d.at? l with
    | some .folder => .error (Refusal.isFolder.fault p.text)
    | _ => .ok (d.put l (.file text))

def makeFolder (d : Disk) (p : Path) : Except Refusal Disk := do
  let l ← d.locate p
  match d.at? l with
  | some _ => .error .taken
  | none => pure (d.put l .folder)

/-- An existing folder will do. -/
def makeFolderAt (d : Disk) (p : Path) : Except Fault Disk :=
  match d.makeFolder p with
  | .ok d => .ok d
  | .error r =>
    match d.find p with
    | .ok .folder => .ok d
    | _ => .error (r.fault p.text)

def makeFolders (d : Disk) (p : Path) : Except Fault Disk :=
  go p.parts.length p
where
  go : Nat → Path → Except Fault Disk
    | 0, p => d.makeFolderAt p
    | n + 1, p =>
      match d.makeFolder p with
      | .error .missing => do (← go n p.parent).makeFolderAt p
      | _ => d.makeFolderAt p

def removeFolder (d : Disk) (p : Path) : Except Fault Disk :=
  match d.locate p with
  | .error r => .error (r.fault p.text)
  | .ok l =>
    match d.at? l with
    | none => .error (Refusal.missing.fault p.text)
    | some (.file _) => .error (Refusal.notFolder.fault p.text)
    | some .folder =>
      if d.entries.any fun (k, _) => l.isPrefixOf k && k ≠ l then
        .error (Refusal.notEmpty.fault p.text)
      else .ok (d.erase l)

/-- Moves a file to another place, over a file that is there. -/
def moveFile (d : Disk) (source target : Path) : Except Fault Disk :=
  let refuse (r : Refusal) : Except Fault Disk :=
    .error (.foreign .system r.name ("[Errno " ++ toString r.number ++ "] " ++ r.reason ++ ": " ++
      Json.quoted source.text ++ " -> " ++ Json.quoted target.text))
  match d.locate source, d.locate target with
  | .error r, _ | _, .error r => refuse r
  | .ok l, .ok k =>
    match d.at? l, d.at? k with
    | none, _ => refuse .missing
    | some .folder, _ => refuse .notFolder
    | some (.file _), some .folder => refuse .isFolder
    | some (.file text), _ => .ok ((d.erase l).put k (.file text))

/-- Names and texts of the files under the working folder. -/
def files (d : Disk) : List (String × String) :=
  d.entries.filterMap fun (l, e) =>
    match e with
    | .file text =>
      if d.here.isPrefixOf l then
        some ("/".intercalate (l.drop d.here.length), .ofList (unifyLines text.toList))
      else none
    | .folder => none

/-- A disk with the given files under its working folder; names that end in a slash are
folders. -/
def ofFiles (here : Location) (files : List (String × String)) : Disk :=
  files.foldl (fun d (name, text) =>
    let p := Path.ofText name
    if name.toList.getLast? = some '/' then (d.makeFolders p).toOption.getD d
    else
      let d := (d.makeFolders p.parent).toOption.getD d
      (d.writeText p text).toOption.getD d) { here }

end Disk

end LinkShelf

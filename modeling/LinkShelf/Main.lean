import LinkShelf.Command.Run
import LinkShelf.Journal
import LinkShelf.Model.Talk
import LinkShelf.Time.Instant
/-!
The command line on a real disk and terminal. Files that a run may read are read before it starts,
and those that it has changed are written whenever it waits or ends. There is no network: every
server counts as out of reach.
-/
namespace LinkShelf.Main

/-- The line to model servers, which is dead. -/
def deadWire : Wire :=
  { answers := fun _ => .error (.foreign .transport "ConnectError" "no network")
    clock := fun _ => Client.half }

def reply (m : ModelSettings) (_ : Nat) (prompt : String) : Except Fault String :=
  (Wire.run (do let c ← liftM (m.client []); c.generate prompt) deadWire).1

def places (d : Disk) (p : Path) : List Location :=
  ((List.range (p.parts.length + 1)).map p.parts.take).map fun names =>
    names.foldl (fun l name => if name = ".." then l.dropLast else l ++ [name])
      (if p.isAbsolute then [] else d.here)

def placeText (l : Location) : String := "/" ++ "/".intercalate l

/-- The disk as far as the given paths go. -/
def readDisk (d : Disk) (paths : List Path) : IO Disk := do
  let here ← IO.currentDir
  let mut d := d
  for l in paths.flatMap (places d) do
    let place := here / placeText l
    if ← place.isDir then d := d.put l .folder
    else if ← place.pathExists then
      match ← (IO.FS.readFile place).toBaseIO with
      | .ok text => d := d.put l (.file text)
      | .error _ => pure ()
  pure d

def writeChanges (before after : Disk) : IO Unit := do
  let here ← IO.currentDir
  for (l, e) in after.entries do
    if before.entries.lookup l ≠ some e then
      match e with
      | .folder => IO.FS.createDirAll (here / placeText l)
      | .file text => IO.FS.writeFile (here / placeText l) text

/-- Seconds since 1970, as the disk sees them. -/
def clock : IO Int := do
  let (_, place) ← IO.FS.createTempFile
  let seconds := (← place.metadata).modified.sec
  IO.FS.removeFile place
  pure seconds

def idOf (seed : Nat) (n : Nat) : String :=
  .ofList ((Nat.toDigits 16 (seed + n)).drop 1)

def seed : IO Nat := do
  pure ((← IO.getRandomBytes 16).toList.foldl (fun n b => n * 256 + b.toNat) 1)

def environment : IO Environment := do
  let mut env : Environment := []
  for name in Settings.providerVariable :: Settings.keyVariables.map (·.1) do
    match ← IO.getEnv name with
    | some value => env := env ++ [(name, value)]
    | none => pure ()
  pure env

def pathsOf (d : Disk) (o : Options) : List Path :=
  Settings.usualPaths d.herePath d.homePath ++
    ([o.input, o.store, o.config, o.export_].filter (· != "")).map Path.ofText

def home (here : Location) : IO Location := do
  match ← IO.getEnv "HOME" with
  | some text => pure (Path.ofText text).parts
  | none => pure here

/-- The disk as far as a run with these words looks at it. -/
def openDisk (env : Environment) (args : List String) : IO Disk := do
  let here := (Path.ofText (← IO.currentDir).toString).parts
  let d : Disk := { here, home := ← home here }
  match Options.parse args with
  | .error _ => pure d
  | .ok o =>
    let d ← readDisk d (pathsOf d o)
    match Command.loadSettings env d o with
    | .ok s => readDisk d [s.storage.path]
    | .error _ => pure d

def writeShown (before after : Command) : IO Unit := do
  let out ← IO.getStdout
  for s in after.shown.drop before.shown.length do out.putStr s.text
  out.flush
  writeChanges before.session.shelf.disk after.session.shelf.disk

partial def talk (c : Command) : IO UInt32 := do
  match c.stage with
  | .done code => pure code.toUInt32
  | .stopped code text =>
    if code = 0 then IO.println text else IO.eprintln text
    pure code.toUInt32
  | _ =>
    let line ← (← IO.getStdin).getLine
    let next := c.feed (if line = "" then none else some line)
    writeShown c next
    talk next

/-- Begins the journal of a run, if the run came so far. -/
def writeJournal (c : Command) (d : Disk) (now : String) : IO Unit := do
  match c.logging with
  | none => pure ()
  | some (level, aloud) =>
    match Journal.start d (Journal.defaultFolder d) Journal.defaultFile (Journal.momentOf now)
        level.name aloud with
    | .error _ => pure ()
    | .ok (j, after) =>
      let j := (j.log "bookmark_agent.cli" .info "Bookmark Agent CLI starting").log
        "bookmark_agent.cli" .info ("Provider: " ++ c.settings.model.provider.name)
      let time := Journal.timeOf now
      IO.eprint (j.echo time)
      match j.keep time after with
      | .ok after => writeChanges d after
      | .error _ => pure ()

def run (args : List String) : IO UInt32 := do
  let env ← environment
  let d ← openDisk env args
  let now := (Instant.utcText? (← clock)).getD ""
  let first ← seed
  let w : World :=
    { environment := env, now, supply := idOf first, replies := reply
      servers := fun _ _ => .error (.foreign .reach "ConnectionError" "no network") }
  let c := Command.start w d args
  writeJournal c d now
  writeShown { c with shown := [], session.shelf.disk := d } c
  talk c

end LinkShelf.Main

def main (args : List String) : IO UInt32 := LinkShelf.Main.run args

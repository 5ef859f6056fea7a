import LinkShelf.Agent.Deletion
import LinkShelf.Agent.Query
import LinkShelf.Command.Options
import LinkShelf.Command.Screen
import LinkShelf.Exchange.File
import LinkShelf.Reach
import LinkShelf.Settings.Change
import LinkShelf.Settings.Load
/-!
A run of the command line. It goes on until it needs a line from the user or is over, so a run is
its start and then one step for each line or the end of the input.
-/
namespace LinkShelf

/-- What a run finds outside. -/
structure World where
  environment : Environment := []
  now : String
  /-- Ids for bookmarks that have none. -/
  supply : Nat → String
  /-- What servers say of an address. -/
  servers : Probe → String → Except Fault Int
  /-- What a model with these settings replies to each request in turn. -/
  replies : ModelSettings → Nat → String → Except Fault String

inductive Stage where
  /-- Waiting for a request. -/
  | request
  /-- Waiting for a yes or no to what is staged. -/
  | consent
  | done (code : Nat)
  /-- The words of the command line led to no run. -/
  | stopped (code : Nat) (text : String)
  deriving DecidableEq, Repr

structure Command where
  world : World
  session : Session
  options : Options := {}
  settings : Settings := {}
  /-- How much is logged, and whether on the screen too. -/
  logging : Option (LogLevel × Bool) := none
  /-- The model that was set up. -/
  model : Option ModelSettings := none
  visits : List Visit := []
  queries : List String := []
  shown : List Shown := []
  stage : Stage := .request

namespace Command

abbrev Act := LinkShelf.Act Command

abbrev run {α : Type} (act : Act α) (c : Command) : Except Fault α × Command :=
  LinkShelf.Act.run act c

def put (s : Shown) : Act Unit := modify fun c => { c with shown := c.shown ++ [s] }

/-- An operation of the agent, whose events are shown. -/
def onSession {α : Type} (act : Session.Act α) : Act α := do
  let c ← get
  let (r, session) := Session.run act c.session
  let news := session.events.drop c.session.events.length
  set { c with session, shown := c.shown ++ news.map Shown.ofEvent }
  match r with
  | .ok a => pure a
  | .error f => throw f

def onShelf {α : Type} (act : Shelf.Act α) : Act α := onSession (Session.onShelf act)

def disk : Act Disk := do pure (← get).session.shelf.disk

def showView : Act Unit := do put (← Shown.ofBookmarks (← get).session.view)

/-- Options that fit together and an input that is there. -/
def checkOptions (d : Disk) (o : Options) : Except Fault Unit := do
  if o.input = "" && o.store = "" then
    throw (.general "Either --input or --store is required")
  if o.input ≠ "" then
    if !(← d.isFile? (.ofText o.input)) then throw (.general ("Input file not found: " ++ o.input))
  if o.persist && o.input = "" then
    throw (.general "--persist needs an --input file to write back to")

def loadSettings (env : Environment) (d : Disk) (o : Options) : Except Fault Settings := do
  Settings.update d (← Settings.load d env o.config) o.toMembers

/-- Whether the collection is kept in a file of its own. -/
def keepsStore (o : Options) (s : Settings) : Bool :=
  o.store != "" || (s.storage.backend = .json && o.input = "")

/-- Opens the shelf and puts the input on it. -/
def openShelf : Act Unit := do
  let c ← get
  let o := c.options
  if keepsStore o c.settings then
    let medium := Medium.file c.settings.storage.path Exchange.defaultIndent
    set { c with session.shelf.name := "json", session.shelf.medium := medium }
  onShelf Shelf.load
  if o.input ≠ "" then
    let bs ← Exchange.load (← disk) c.world.now (.ofText o.input) ""
    discard (onShelf (Shelf.replaceAll bs))

/-- Checks all addresses and notes the outcome. -/
def checkUrls : Act Unit := do
  let bs ← onShelf Shelf.list
  let c ← get
  put (.status ("Checking " ++ toString bs.length ++ " URLs..."))
  let reach : Reach := { answers := c.world.servers, timeout := .float c.settings.agent.urlTimeout }
  let (found, reach) := Reach.run (Reach.checkAll bs) reach
  modify fun c => { c with visits := c.visits ++ reach.visits }
  (← found).forM fun (id, status) =>
    discard (onShelf (Shelf.update c.world.now id status.patch))

/-- Writes bookmarks to a file in the form that its name tells. -/
def saveTo (name lead : String) (bs : List Bookmark) : Act Unit := do
  let path := Path.ofText name
  let d ← Exchange.save (← disk) path "" bs
  modify fun c => { c with session.shelf.disk := d }
  put (.styled "green" (lead ++ " to " ++ path.text))

def conclude : Act Unit := do
  modify fun c => { c with session := c.session.detach }
  let c ← get
  if c.options.export_ ≠ "" then saveTo c.options.export_ "Exported view" c.session.view
  if c.options.persist then
    saveTo c.options.input "Saved collection" (← onShelf Shelf.list)
  modify ({ · with stage := .done 0 })

/-- Makes a request of the model and shows what comes of it. -/
def submit (query : String) : Act Unit := do
  let c ← get
  let reply := c.world.replies c.settings.model c.queries.length (Prompt.ofRequest query)
  if !Text.blank query then
    set { c with queries := c.queries ++ [Prompt.escaped query] }
  let outcome ← onSession (Session.submit query reply)
  if !outcome.plan.isEmpty then put (.ofPlan outcome.plan)
  put (← Shown.ofBookmarks outcome.view)

def await (stage : Stage) (s : Shown) : Act Unit := do
  put s
  modify ({ · with stage })

def awaitRequest : Act Unit := await .request .askRequest

def awaitConsent : Act Unit := do
  await .consent (.askConsent (← get).session.pending.length)

def delete : Act Unit := do
  discard (onSession Session.confirm)
  showView

def answerOnce (query : String) : Act Unit := do
  submit query
  let c ← get
  if c.session.pending.isEmpty then conclude
  else if c.options.yes then
    delete
    conclude
  else awaitConsent

def beginSession : Act Unit := do
  put .help
  showView
  awaitRequest

/-- A run from its options up to the first line it needs. -/
def begin (o : Options) : Act Unit := do
  let c ← get
  checkOptions (← disk) o
  let settings ← loadSettings c.world.environment (← disk) o
  set { c with
    options := o, settings, logging := some (settings.logLevel, o.verbose),
    session.stacking := settings.agent.stackPlans }
  openShelf
  if settings.agent.checkUrls then checkUrls
  modify ({ · with model := some settings.model })
  discard (onSession Session.refresh)
  modify fun c => { c with session := c.session.attach }
  if o.query ≠ "" then answerOnce o.query else beginSession

def guarded (act : Act Unit) (c : Command) : Command :=
  match run act c with
  | (.ok _, c) => c
  | (.error f, c) => { c with shown := c.shown ++ [.failure f], stage := .done 1 }

def versionText : String := "bookmark-agent 1.0.0"

/-- The words of the command line up to the first line that is needed. -/
def start (w : World) (d : Disk) (args : List String) : Command :=
  let c : Command := { world := w, session := { shelf := { disk := d, supply := w.supply } } }
  match Options.parse args with
  | .ok o => guarded (begin o) c
  | .error .help => { c with stage := .stopped 0 Options.usage }
  | .error .version => { c with stage := .stopped 0 versionText }
  | .error (.misuse message) =>
    { c with stage := .stopped 2 ("bookmark-agent: error: " ++ message) }
  | .error (.failed f) => guarded (throw f) c

def consent? (line : String) : Option Bool :=
  match Text.lower (Text.trim line) with
  | "y" => some true
  | "n" => some false
  | _ => none

def onConsent (line : Option String) : Act Unit :=
  match line with
  | none => throw (.foreign .other "EOFError" "EOF when reading a line")
  | some line =>
    match consent? line with
    | none => do
      put .askAgain
      awaitConsent
    | some true => do
      delete
      conclude
    | some false => do
      modify fun c => { c with session := c.session.cancel }
      conclude

/-- Words that are said to the session and not to the agent. -/
def words : List String := [":reset", ":confirm", ":cancel", ":quit", ":exit", ":help"]

def onWord (line : String) : Act Unit :=
  match line with
  | "" => pure ()
  | ":help" => put .help
  | ":reset" => do
    modify fun c => { c with session := c.session.reset }
    showView
  | ":confirm" => do
    if (← get).session.pending.isEmpty then put (.styled "dim" "Nothing staged for deletion.")
    else delete
  | ":cancel" => modify fun c => { c with session := c.session.cancel }
  | line =>
    if Text.startsWith line ":" then
      put (.styled "yellow" ("Unknown command " ++ line ++ ". Try one of: " ++
        ", ".intercalate words))
    else submit line

def onRequest (line : Option String) : Act Unit := do
  match line.map Text.trim with
  | none =>
    put .blank
    conclude
  | some line =>
    if line = ":quit" ∨ line = ":exit" then conclude
    else
      onWord line
      awaitRequest

/-- Takes a line, or the end of the input. A run that is over takes nothing. -/
def feed (line : Option String) (c : Command) : Command :=
  match c.stage with
  | .request => guarded (onRequest line) c
  | .consent => guarded (onConsent line) c
  | .done _ | .stopped .. => c

/-- A whole run: its lines and then the end of the input. -/
def complete (w : World) (d : Disk) (args lines : List String) : Command :=
  (lines.foldl (fun c line => c.feed (some line)) (start w d args)).feed none

end Command

end LinkShelf

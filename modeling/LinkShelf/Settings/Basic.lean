import LinkShelf.File.Disk
import LinkShelf.Model.Client
import LinkShelf.Settings.Check
import LinkShelf.Text.Upper
/-!
The settings: which model to talk to, where the collection is kept, how the agent behaves, and
how much is logged.
-/
namespace LinkShelf

structure ModelSettings where
  provider : Provider := .gemini
  model : Option String := none
  base : Option String := none
  geminiKey : Option String := none
  openaiKey : Option String := none
  grokKey : Option String := none
  timeout : Int := 60
  maxRetries : Int := 2
  deriving DecidableEq, Repr

inductive Backend where
  | memory
  | json
  deriving DecidableEq, Repr

structure StorageSettings where
  backend : Backend := .json
  path : Path := .ofText "bookmarks.json"
  deriving DecidableEq, Repr

structure AgentSettings where
  stackPlans : Bool := true
  checkUrls : Bool := false
  urlTimeout : Binary64 := .ofRatio false 10 1
  deriving DecidableEq, Repr

inductive LogLevel where
  | debug
  | info
  | warning
  | error
  deriving DecidableEq, Repr

structure Settings where
  model : ModelSettings := {}
  storage : StorageSettings := {}
  agent : AgentSettings := {}
  logLevel : LogLevel := .info
  deriving DecidableEq, Repr

def Backend.named : List (String × Backend) := [("memory", .memory), ("json", .json)]

def Backend.name : Backend → String
  | .memory => "memory"
  | .json => "json"

def LogLevel.name : LogLevel → String
  | .debug => "DEBUG"
  | .info => "INFO"
  | .warning => "WARNING"
  | .error => "ERROR"

def LogLevel.named : List (String × LogLevel) :=
  [.debug, .info, .warning, .error].map fun l => (l.name, l)

/-- Keys that were copied from an example and never replaced. -/
def placeholderKeys : List String :=
  ["your-gemini-api-key-here", "your-openai-api-key-here", "your-grok-api-key-here",
    "sk-placeholder"]

namespace ModelSettings

/-- The key of a provider, by the provider's name. -/
def keyFor (m : ModelSettings) (name : String) : Option String :=
  match name with
  | "gemini" => m.geminiKey
  | "openai" => m.openaiKey
  | "grok" => m.grokKey
  | _ => none

def key (m : ModelSettings) : Option String := m.keyFor m.provider.name

def providerIn (place : List String) (v : Json) : Checked Provider :=
  Checked.oneOf place (Provider.all.map fun p => (p.name, p)) (Checked.normalized Text.lower v)

/-- A key that was not left as it stands in an example. -/
def secretIn (owner : String) (place : List String) (s : String) : Checked (Option String) :=
  if s ∈ placeholderKeys then
    Checked.complain place
      ("Value error, Please replace the placeholder API key with your actual " ++ owner ++
        " API key.")
  else .ok (some s)

/-- A key as text, an empty one being none. -/
def keyIn (owner : String) (place : List String) (v : Json) : Checked (Option String) :=
  if v.isUnset then .ok none else secretIn owner place v.text

/-- Settings with those given put over them. -/
def read (m : ModelSettings) (ms : Members) : Checked ModelSettings :=
  let place := ["llm"]
  Checked.app (Checked.app (Checked.app (Checked.app (Checked.app (Checked.app (Checked.app
    (Checked.app (.ok ModelSettings.mk)
      (Checked.replacing ms "provider" m.provider providerIn place))
      (Checked.replacing ms "model" m.model Checked.optionalText place))
      (Checked.replacing ms "base_url" m.base Checked.optionalText place))
      (Checked.replacing ms "gemini_api_key" m.geminiKey (keyIn "Gemini") place))
      (Checked.replacing ms "openai_api_key" m.openaiKey (keyIn "Openai") place))
      (Checked.replacing ms "grok_api_key" m.grokKey (keyIn "Grok") place))
      (Checked.replacing ms "timeout" m.timeout (Checked.whole · 5 300) place))
      (Checked.replacing ms "max_retries" m.maxRetries (Checked.whole · 0 10) place)

/-- A client as the settings say, with options put over them. -/
def client (m : ModelSettings) (options : Members) : Except Fault Client :=
  let orNull (s : Option String) : Json := (s.map Json.str).getD .null
  let own : Members :=
    [("api_key", orNull m.key), ("model", orNull m.model), ("base_url", orNull m.base),
      ("timeout", .int m.timeout), ("max_retries", .int m.maxRetries)]
  Client.ofOptions m.provider (options.foldl (fun ms (k, v) => Members.put k v ms) own)

end ModelSettings

namespace StorageSettings

def pathIn (home : Path) (place : List String) (v : Json) : Checked Path :=
  match v with
  | .str s =>
    let p := Path.ofText s
    .ok (match p.root, p.parts with
      | "", "~" :: rest => { home with parts := home.parts ++ rest }
      | _, _ => p)
  | _ => Checked.complain place "Input is not a valid path for <class 'pathlib.Path'>"

/-- Whether a path starts at the home of another user, which is not known. -/
def namesUser (p : Path) : Bool :=
  !p.isAbsolute && match p.parts with
    | first :: _ => first != "~" && Text.startsWith first "~"
    | [] => false

def read (home : Path) (s : StorageSettings) (ms : Members) : Checked StorageSettings :=
  let place := ["storage"]
  Checked.app (Checked.app (.ok StorageSettings.mk)
    (Checked.replacing ms "backend" s.backend (Checked.oneOf · Backend.named) place))
    (Checked.replacing ms "path" s.path (pathIn home) place)

end StorageSettings

namespace AgentSettings

/-- The longest time an address may take, in seconds. -/
def maxUrlTimeout : Binary64 := .ofRatio false 120 1

def read (a : AgentSettings) (ms : Members) : Checked AgentSettings :=
  let place := ["agent"]
  Checked.app (Checked.app (Checked.app (.ok AgentSettings.mk)
    (Checked.replacing ms "stack_plans" a.stackPlans Checked.truth place))
    (Checked.replacing ms "check_urls" a.checkUrls Checked.truth place))
    (Checked.replacing ms "url_timeout" a.urlTimeout (Checked.positive · maxUrlTimeout) place)

end AgentSettings

namespace Settings

def sectionIn {α : Type} (kind : String) (f : Members → Checked α) (place : List String)
    (v : Json) : Checked α := do f (← Checked.section_ place kind v)

/-- Settings with those given put over them. -/
def readFields (home : Path) (s : Settings) (ms : Members) : Checked Settings :=
  let replacing {α : Type} (name : String) (before : α) (check : List String → Json → Checked α) :=
    Checked.replacing ms name before check []
  Checked.app (Checked.app (Checked.app (Checked.app (.ok Settings.mk)
    (replacing "llm" s.model (sectionIn "LLMConfig" s.model.read)))
    (replacing "storage" s.storage (sectionIn "StorageConfig" (s.storage.read home))))
    (replacing "agent" s.agent (sectionIn "AgentConfig" s.agent.read)))
    (replacing "log_level" s.logLevel fun place v =>
      Checked.oneOf place LogLevel.named (Checked.normalized Text.upper v))

def invalid (lines : List String) : Fault :=
  .configuration ("Configuration validation failed:\n" ++ "\n".intercalate lines)

/-- The path of the store among loosely written settings. -/
def storePath? (ms : Members) : Option Path :=
  match (Members.get ms "storage").get? "path" with
  | some (.str s) => some (.ofText s)
  | _ => none

/-- Checked settings, as far as they fit the disk: a collection is not kept in a folder. -/
def settle (d : Disk) (ms : Members) (checked : Checked Settings) : Except Fault Settings := do
  if (storePath? ms).any StorageSettings.namesUser then
    throw (.foreign .other "RuntimeError" "Could not determine home directory.")
  match checked with
  | .error lines => .error (invalid lines)
  | .ok s =>
    let path := s.storage.path
    let isFolder ← if s.storage.backend = .json then d.isFolder? path else pure false
    if isFolder then
      throw (invalid [Checked.complaint [] ("Value error, Storage path " ++ path.text ++
        " is a directory; expected a JSON file")])
    pure s

/-- Settings with those given put over them. -/
def read (d : Disk) (s : Settings) (ms : Members) : Except Fault Settings :=
  settle d ms (readFields d.homePath s ms)

end Settings

end LinkShelf

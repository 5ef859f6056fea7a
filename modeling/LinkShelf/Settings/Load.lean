import LinkShelf.Json.Reader
import LinkShelf.Settings.Basic
import LinkShelf.Toml.Document
/-!
Where settings come from: a file, then the environment for keys and the provider.
-/
namespace LinkShelf

/-- Values of environment variables. -/
abbrev Environment := List (String × String)

namespace Settings

def readProblem (p : Path) (reason : String) : Fault :=
  .badValue ("Failed to load configuration from " ++ p.text ++ ": " ++ reason)

/-- The value in a settings file; its suffix says whether it is TOML or JSON. -/
def readFile (d : Disk) (p : Path) : Except Fault Json := do
  let suffix := Text.lower p.suffix
  if suffix ≠ ".toml" ∧ suffix ≠ ".json" then
    throw (.badValue ("Unsupported configuration file format: " ++ suffix))
  let text ← match d.readText p with
    | .ok text => pure text
    | .error f => throw (if f.family? = some .system then readProblem p f.message else f)
  if suffix = ".toml" then
    match Toml.parse text with
    | .ok ms => pure (.obj ms)
    | .error reason => throw (readProblem p reason)
  else
    match Json.parse text with
    | .ok v => pure v
    | .error e => throw (readProblem p e.message)

def missing (p : Path) : Fault :=
  .configuration ("Configuration file not found: " ++ p.text ++
    "\nOmit --config to use defaults, or check the path.")

/-- The value in a settings file that must be there. -/
def readGiven (d : Disk) (p : Path) : Except Fault Json := do
  if ← d.exists? p then
    (readFile d p).mapError fun f =>
      if f.family? = some .badValue then .configuration ("Configuration error: " ++ f.message)
      else f
  else throw (missing p)

/-- Files to look for where none is named, under the working and the home folder. -/
def usualPaths (here home : Path) : List Path :=
  [here.under (.ofText "bookmark_agent.toml"), here.under (.ofText "bookmark_agent.json"),
    home.under (.ofText ".config/bookmark-agent/config.toml")]

/-- The value in the first of several files that is there; an empty object if none is. -/
def readFirst (d : Disk) : List Path → Except Fault Json
  | [] => .ok (.obj [])
  | p :: ps => do if ← d.exists? p then readGiven d p else readFirst d ps

/-- The variables that hold keys, in order, and the settings they stand for. -/
def keyVariables : List (String × String) :=
  [("GEMINI_API_KEY", "gemini_api_key"), ("OPENAI_API_KEY", "openai_api_key"),
    ("XAI_API_KEY", "grok_api_key"), ("GROK_API_KEY", "grok_api_key")]

def providerVariable : String := "BOOKMARK_AGENT_PROVIDER"

/-- Fills one key from its variable, if the variable has a value and the settings have none. -/
def fillKey (env : Environment) (section_ : Json) (variableName field : String) :
    Except Fault Json :=
  match (env.lookup variableName).getD "" with
  | "" => .ok section_
  | value =>
    match section_ with
    | .obj ms =>
      .ok (.obj (if (Members.get ms field).truthy then ms else Members.put field (.str value) ms))
    | v => .error (v.lacks "get")

/-- Fills the provider from its variable, if the settings name none. -/
def fillProvider (env : Environment) (section_ : Json) : Except Fault Json :=
  match (env.lookup providerVariable).getD "" with
  | "" => .ok section_
  | value =>
    match section_ with
    | .obj ms => .ok (if Members.has ms "provider" then .obj ms
        else .obj (Members.put "provider" (.str value) ms))
    | .str s =>
      if Text.contains s "provider" then .ok (.str s)
      else .error (.badType "'str' object does not support item assignment")
    | .arr items =>
      if items.any fun v => v.str? = some "provider" then .ok (.arr items)
      else .error (.badType "list indices must be integers or slices, not str")
    | v => .error (.badType ("argument of type '" ++ v.typeName ++ "' is not iterable"))

/-- Settings of a file with the environment put under them. -/
def withEnvironment (env : Environment) (v : Json) : Except Fault Members :=
  match v with
  | .obj ms => do
    let section_ := (Members.get? ms "llm").getD (.obj [])
    let section_ ← keyVariables.foldlM (fun v (name, field) => fillKey env v name field) section_
    pure (Members.put "llm" (← fillProvider env section_) ms)
  | v => .error (v.lacks "setdefault")

/-- The settings of a named file, or of the first usual one. -/
def load (d : Disk) (env : Environment) (named : String) : Except Fault Settings := do
  let v ← if named ≠ "" then readGiven d (.ofText named)
    else readFirst d (usualPaths d.herePath d.homePath)
  read d {} (← withEnvironment env v)

/-- A settings file to start from. -/
def sample : String := "\n".intercalate
  ["log_level = \"INFO\"", "", "[llm]", "provider = \"gemini\"", "timeout = 60",
    "max_retries = 2", "gemini_api_key = \"your-gemini-api-key-here\"", "", "[storage]",
    "backend = \"json\"", "path = \"bookmarks.json\"", "", "[agent]", "stack_plans = true",
    "check_urls = false", ""]

end Settings

end LinkShelf

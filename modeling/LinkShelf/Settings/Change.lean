import LinkShelf.Act
import LinkShelf.Settings.Basic
/-!
Changing settings that are held. They are written down, the arguments of the command line are put
over them, and all of it is checked anew; what is held is replaced only if nothing is wrong.
-/
namespace LinkShelf

/-- The checked value of a name; where it is not given, what is held is checked once more. -/
def Checked.renewing {α : Type} (ms : Members) (name : String) (held : List String → Checked α)
    (check : List String → Json → Checked α) (place : List String) : Checked α :=
  match Members.get? ms name with
  | some v => check (place ++ [name]) v
  | none => held (place ++ [name])

namespace ModelSettings

/-- A key that is held is a secret already, which may still be one from an example. -/
def heldKey (owner : String) (key : Option String) (place : List String) : Checked (Option String) :=
  match key with
  | none => .ok none
  | some s => secretIn owner place s

def heldText (s : Option String) (place : List String) : Checked (Option String) :=
  Checked.optionalText place ((s.map Json.str).getD .null)

def renew (m : ModelSettings) (ms : Members) : Checked ModelSettings :=
  let place := ["llm"]
  let timeout place := Checked.whole place 5 300
  let maxRetries place := Checked.whole place 0 10
  Checked.app (Checked.app (Checked.app (Checked.app (Checked.app (Checked.app (Checked.app
    (Checked.app (.ok ModelSettings.mk)
      (Checked.renewing ms "provider" (providerIn · (.str m.provider.name)) providerIn place))
      (Checked.renewing ms "model" (heldText m.model) Checked.optionalText place))
      (Checked.renewing ms "base_url" (heldText m.base) Checked.optionalText place))
      (Checked.renewing ms "gemini_api_key" (heldKey "Gemini" m.geminiKey) (keyIn "Gemini") place))
      (Checked.renewing ms "openai_api_key" (heldKey "Openai" m.openaiKey) (keyIn "Openai") place))
      (Checked.renewing ms "grok_api_key" (heldKey "Grok" m.grokKey) (keyIn "Grok") place))
      (Checked.renewing ms "timeout" (timeout · (.int m.timeout)) timeout place))
      (Checked.renewing ms "max_retries" (maxRetries · (.int m.maxRetries)) maxRetries place)

end ModelSettings

/-- A path that is held is taken as it is. -/
def StorageSettings.renew (home : Path) (s : StorageSettings) (ms : Members) :
    Checked StorageSettings :=
  let place := ["storage"]
  let backend place := Checked.oneOf place Backend.named
  Checked.app (Checked.app (.ok StorageSettings.mk)
    (Checked.renewing ms "backend" (backend · (.str s.backend.name)) backend place))
    (Checked.renewing ms "path" (fun _ => .ok s.path) (pathIn home) place)

def AgentSettings.renew (a : AgentSettings) (ms : Members) : Checked AgentSettings :=
  let place := ["agent"]
  let urlTimeout place := Checked.positive place maxUrlTimeout
  Checked.app (Checked.app (Checked.app (.ok AgentSettings.mk)
    (Checked.renewing ms "stack_plans" (Checked.truth · (.bool a.stackPlans)) Checked.truth place))
    (Checked.renewing ms "check_urls" (Checked.truth · (.bool a.checkUrls)) Checked.truth place))
    (Checked.renewing ms "url_timeout" (urlTimeout · (.float a.urlTimeout)) urlTimeout place)

namespace Settings

def renewFields (home : Path) (s : Settings) (ms : Members) : Checked Settings :=
  let renewing {α : Type} (name : String) (held : List String → Checked α)
      (check : List String → Json → Checked α) := Checked.renewing ms name held check []
  let level place (v : Json) := Checked.oneOf place LogLevel.named (Checked.normalized Text.upper v)
  Checked.app (Checked.app (Checked.app (Checked.app (.ok Settings.mk)
    (renewing "llm" (fun _ => s.model.renew []) (sectionIn "LLMConfig" s.model.renew)))
    (renewing "storage" (fun _ => s.storage.renew home [])
      (sectionIn "StorageConfig" (s.storage.renew home))))
    (renewing "agent" (fun _ => s.agent.renew []) (sectionIn "AgentConfig" s.agent.renew)))
    (renewing "log_level" (level · (.str s.logLevel.name)) level)

/-- A member for an argument that counts. -/
def given (args : Members) (name key : String) : Members :=
  if (args.get name).truthy then [(key, args.get name)] else []

/-- What the arguments of the command line set. -/
def ofArguments (args : Members) : Members :=
  let store := if (args.get "store").truthy then
      [("backend", Json.str Backend.json.name), ("path", args.get "store")]
    else []
  let checkUrls := match args.get "check_urls" with
    | .null => []
    | v => [("check_urls", v)]
  let stackPlans := if (args.get "no_stack").truthy then [("stack_plans", Json.bool false)] else []
  [("llm", .obj (given args "provider" "provider" ++ given args "model" "model" ++
      given args "base_url" "base_url")),
    ("storage", .obj store), ("agent", .obj (stackPlans ++ checkUrls))] ++
    if (args.get "verbose").truthy then [("log_level", .str LogLevel.debug.name)] else []

/-- The settings with the arguments of the command line put over them. -/
def update (d : Disk) (s : Settings) (args : Members) : Except Fault Settings :=
  settle d (ofArguments args) (renewFields d.homePath s (ofArguments args))

/-- Puts the arguments of the command line over the settings that are held. -/
def tell (d : Disk) (args : Members) : Act Settings Unit := do
  set (← liftM (update d (← get) args))

end Settings

end LinkShelf

import LinkShelf.Model.Client
import LinkShelf.Model.Names
import LinkShelf.Plan.Reply
/-!
What is asked of a provider: the reply to a prompt, and the names of its models.
-/
namespace LinkShelf.Client

def commonHeaders : List (String × String) :=
  [("User-Agent", "BookmarkAgent/1.0"), ("Accept", "application/json"),
    ("Content-Type", "application/json")]

/-- Chat servers take the key as a header. -/
def headers (c : Client) : List (String × String) :=
  match c.provider with
  | .gemini | .ollama => commonHeaders
  | .openai | .grok | .lmstudio =>
    if c.key = "" then commonHeaders
    else commonHeaders ++ [("Authorization", "Bearer " ++ c.key)]

/-- Gemini takes the key as a parameter. -/
def parameters (c : Client) : List (String × String) :=
  match c.provider with
  | .gemini => [("key", c.key)]
  | _ => []

def chatMessage (role content : String) : Json :=
  .obj [("role", .str role), ("content", .str content)]

def systemPrompt : String := "You are a helpful assistant."

def chatBody (c : Client) (prompt : String) : Json :=
  let user := chatMessage "user" prompt
  let messages := match c.provider with
    | .grok => [user]
    | _ => [chatMessage "system" systemPrompt, user]
  .obj ([("model", .str c.model), ("messages", .arr messages), ("temperature", .int 0)] ++
    match c.provider with
    | .lmstudio => [("stream", .bool false)]
    | _ => [])

def promptPath (c : Client) : String :=
  match c.provider with
  | .gemini => "/v1beta/models/" ++ c.model ++ ":generateContent"
  | .openai | .grok => "/chat/completions"
  | .lmstudio => "/v1/chat/completions"
  | .ollama => "/api/generate"

def promptBody (c : Client) (prompt : String) : Json :=
  match c.provider with
  | .gemini =>
    let part : Json := .obj [("text", .str prompt)]
    .obj [("contents", .arr [.obj [("role", .str "user"), ("parts", .arr [part])]])]
  | .ollama =>
    .obj [("model", .str c.model), ("prompt", .str prompt), ("stream", .bool false)]
  | _ => c.chatBody prompt

def replyPath : Provider → List Reply.Hop
  | .gemini => Reply.geminiPath
  | .ollama => [.member "response"]
  | _ => Reply.chatPath

/-- The reply of the model to a prompt, empty if the answer holds none. -/
def generate (c : Client) (prompt : String) : Wire.Act String := do
  let v ← c.ask
    { method := .post, url := c.base ++ c.promptPath, parameters := c.parameters,
      headers := c.headers, body := some (c.promptBody prompt) }
  pure (Reply.textAt (replyPath c.provider) v)

def modelsPath : Provider → String
  | .gemini => "/v1beta/models"
  | .openai | .grok => "/models"
  | .lmstudio => "/v1/models"
  | .ollama => "/api/tags"

/-- The member of an object; anything else has none to ask for. -/
def memberOf (v : Json) (name : String) : Except Fault Json :=
  match v with
  | .obj ms => .ok (Members.get ms name)
  | v => .error (v.lacks "get")

/-- What an entry in the list of models calls its model. -/
def nameOf (p : Provider) (entry : Json) : Except Fault Json := do
  let entry := entry.orElse (.obj [])
  match p with
  | .gemini =>
    match (← memberOf entry "name").orElse (.str "") with
    | .str s => pure (.str (Text.replace s "models/" ""))
    | v => .error (v.lacks "replace")
  | .ollama =>
    let model ← memberOf entry "model"
    pure (model.orElse (← memberOf entry "name"))
  | _ => memberOf entry "id"

def listName : Provider → String
  | .gemini | .ollama => "models"
  | _ => "data"

/-- The names in an answer, which may be anything. -/
def namesIn (p : Provider) (v : Json) : Except Fault (List Json) := do
  let entries ← ((← memberOf v (listName p)).orElse (.arr [])).elements
  entries.mapM (nameOf p)

def fetchNames (c : Client) : Wire.Act (List Json) := do
  let v ← c.ask
    { method := .get, url := c.base ++ modelsPath c.provider, parameters := c.parameters,
      headers := c.headers }
  namesIn c.provider v

/-- Failures of asking for names that the known names make good. -/
def spares (f : Fault) : Bool :=
  match f with
  | .model .. => true
  | f =>
    f.family? = some .badValue || f.family? = some .badType || f.family? = some .badAttribute

/-- The names of all models, the own one first. Where the server cannot be asked, the known ones
stand in. -/
def listModels (c : Client) : Wire.Act (List Json) := do
  let own : Json := .str c.model
  let known ← Json.distinct (own :: c.provider.knownModels.map .str)
  if c.provider.needsKey && c.key = "" then pure known
  else
    let names ← tryCatch (some <$> c.fetchNames) fun f =>
      if spares f then pure none else throw f
    match names with
    | some names => Json.distinct (own :: Json.oneNaN names)
    | none => pure known

end LinkShelf.Client

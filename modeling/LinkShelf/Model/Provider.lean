import LinkShelf.Fault
import LinkShelf.Text.Lower
import LinkShelf.Text.Trim
/-!
The providers of language models, hosted and local, and what differs between them.
-/
namespace LinkShelf

inductive Provider where
  | gemini
  | openai
  | grok
  | ollama
  | lmstudio
  deriving DecidableEq, Repr

namespace Provider

def all : List Provider := [.gemini, .openai, .grok, .ollama, .lmstudio]

def name : Provider → String
  | .gemini => "gemini"
  | .openai => "openai"
  | .grok => "grok"
  | .ollama => "ollama"
  | .lmstudio => "lmstudio"

def displayName : Provider → String
  | .gemini => "Gemini"
  | .openai => "OpenAI"
  | .grok => "Grok"
  | .ollama => "Ollama"
  | .lmstudio => "LM Studio"

def clientName : Provider → String
  | .gemini => "GeminiClient"
  | .openai => "OpenAIClient"
  | .grok => "GrokClient"
  | .ollama => "OllamaClient"
  | .lmstudio => "LMStudioClient"

def defaultModel : Provider → String
  | .gemini => "gemini-2.0-flash"
  | .openai => "gpt-4o-mini"
  | .grok => "grok-beta"
  | .ollama => "llama3.1"
  | .lmstudio => "lmstudio-community/Meta-Llama-3-8B-Instruct-GGUF"

def defaultBase : Provider → String
  | .gemini => "https://generativelanguage.googleapis.com"
  | .openai => "https://api.openai.com/v1"
  | .grok => "https://api.x.ai/v1"
  | .ollama => "http://localhost:11434"
  | .lmstudio => "http://localhost:1234"

/-- Models to offer when the server cannot be asked. -/
def knownModels : Provider → List String
  | .gemini => ["gemini-2.0-flash", "gemini-2.0-pro", "gemini-1.5-pro", "gemini-1.5-flash"]
  | .openai => ["gpt-4o", "gpt-4o-mini", "gpt-4.1", "gpt-3.5-turbo"]
  | .grok => ["grok-beta"]
  | .ollama | .lmstudio => []

/-- Local servers take no key. -/
def keyless (provider : String) : Bool := provider = "ollama" || provider = "lmstudio"

def needsKey (p : Provider) : Bool := !keyless p.name

def ofName? (s : String) : Option Provider := all.find? (·.name = s)

/-- A provider by its name in any case, Gemini being taken where the name is none. -/
def ofText (s : String) : Provider := (ofName? (Text.lower (Text.trim s))).getD .gemini

/-- A provider by a loosely given name. -/
def ofJson (v : Json) : Except Fault Provider :=
  match v with
  | .str s => .ok (ofText s)
  | v => if v.truthy then .error (v.lacks "strip") else .ok .gemini

end Provider

end LinkShelf

/-! # Settings of the language model

Which service to ask, with which model, and the key for it.

* `LlmDefaults.of` – the model and address of a service that is known by name;
* `LlmSettings` – the settings;
* `LlmSettings.enabled` – whether there is anything to ask.
-/

namespace RepoAudit

/-- The model and the address that a service has unless settings say otherwise. -/
structure LlmDefaults where
  model : String
  endpoint : String
  deriving Repr, DecidableEq

namespace LlmDefaults

def anthropic : LlmDefaults :=
  ⟨"claude-sonnet-4-20250514", "https://api.anthropic.com/v1/messages"⟩

def openai : LlmDefaults :=
  ⟨"gpt-4o", "https://api.openai.com/v1/chat/completions"⟩

def ollama : LlmDefaults :=
  ⟨"qwen2.5-coder:7b", "http://127.0.0.1:11434/api/generate"⟩

def of (provider : String) : LlmDefaults :=
  if provider = "openai" then openai
  else if provider = "ollama" then ollama
  else anthropic

end LlmDefaults

structure LlmSettings where
  provider : String := "anthropic"
  model : String := LlmDefaults.anthropic.model
  apiKey : String := ""
  endpoint : String := ""
  deriving Repr, DecidableEq, Inhabited

/-- Whether there is anything to ask: a key, or the local service, which needs none. -/
def LlmSettings.enabled (s : LlmSettings) : Bool :=
  !s.apiKey.isEmpty || s.provider == "ollama"

end RepoAudit

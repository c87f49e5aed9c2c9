import RepoAudit.Llm.Settings
import RepoAudit.Text.Lower
import RepoAudit.Wire

/-! # Asking a language model

Three kinds of service, each with its own form of request and of answer.  An answer of an unexpected
form counts as no answer.

* `Provider` – a service to ask;
* `Provider.ofSettings` – the service that settings mean;
* `Provider.generate` – asks it.
-/

namespace RepoAudit

inductive ProviderKind where
  | anthropic
  | openai
  | ollama
  deriving Repr, DecidableEq, Inhabited

structure Provider where
  kind : ProviderKind
  model : String
  apiKey : String
  endpoint : String
  deriving Repr, DecidableEq, Inhabited

inductive GenerateError where
  /-- The local service answered with something that has no fields. -/
  | answerNotObject
  /-- A service answered with a document that is nested too deeply to be read. -/
  | tooDeep
  deriving Repr, DecidableEq

structure Prompt where
  text : String
  maxTokens : Int := 1024
  system : Option String := none
  deriving Repr, DecidableEq, Inhabited

namespace ProviderKind

/-- The kind of a service by its name in any case; an unknown name stands for the first kind. -/
def ofName (name : String) : ProviderKind :=
  let name := Text.lower name
  if name = "openai" then .openai
  else if name = "ollama" then .ollama
  else .anthropic

def defaults : ProviderKind → LlmDefaults
  | .anthropic => .anthropic
  | .openai => .openai
  | .ollama => .ollama

end ProviderKind

namespace Provider

def ofSettings (s : LlmSettings) : Provider :=
  let kind := ProviderKind.ofName s.provider
  { kind := kind, model := s.model, apiKey := s.apiKey
    endpoint := if s.endpoint.isEmpty then kind.defaults.endpoint else s.endpoint }

/-- How many seconds an answer may take. -/
def timeout : Nat := 60

def systemText? (q : Prompt) : Option String :=
  q.system.filter fun s => !s.isEmpty

def message (role content : String) : Value :=
  .object [("role", .text role), ("content", .text content)]

def headers (p : Provider) : List (String × String) :=
  let json := ("Content-Type", "application/json")
  match p.kind with
  | .anthropic => [json, ("x-api-key", p.apiKey), ("anthropic-version", "2023-06-01")]
  | .openai => [json, ("Authorization", "Bearer " ++ p.apiKey)]
  | .ollama => [json]

def temperature : Value := .float 0.1

def payload (p : Provider) (q : Prompt) : Value :=
  let system := (systemText? q).toList.map fun s => ("system", Value.text s)
  match p.kind with
  | .anthropic => .object
      ([("model", .text p.model), ("messages", .list [message "user" q.text]),
        ("max_tokens", .int q.maxTokens)] ++ system)
  | .openai => .object
      [("model", .text p.model),
       ("messages", .list ((systemText? q).toList.map (message "system") ++ [message "user" q.text])),
       ("temperature", temperature), ("max_tokens", .int q.maxTokens)]
  | .ollama => .object
      ([("model", .text p.model), ("prompt", .text q.text), ("stream", .bool false),
        ("options", .object [("temperature", temperature), ("num_predict", .int q.maxTokens)])]
        ++ system)

/-- The first item of a list, or the first character of a text. -/
def first? : Value → Option Value
  | .list (v :: _) => some v
  | .text s => s.toList.head?.map fun c => .text (String.singleton c)
  | _ => none

/-- The answer inside the document that a service sends back; null when it is not where it should
be. -/
def answerIn (kind : ProviderKind) (body : Value) : Except GenerateError Value :=
  match kind with
  | .anthropic => .ok <| (do
      let content ← body.field? "content"
      let part ← first? content
      part.field? "text").getD .null
  | .openai => .ok <| (do
      let choices ← body.field? "choices"
      let choice ← first? choices
      let message ← choice.field? "message"
      message.field? "content").getD .null
  | .ollama =>
    match body with
    | .null => .ok .null
    | .object _ => .ok (body.getD "response")
    | _ => .error .answerNotObject

/-- Whether a service can be asked: all but the local one need a key. -/
def canAsk (p : Provider) : Bool :=
  p.kind == .ollama || !p.apiKey.isEmpty

def request (p : Provider) (q : Prompt) : Request :=
  { url := p.endpoint, headers := p.headers, payload := p.payload q, timeout := timeout }

/-- Asks a service.  Without a key nothing is sent; null means that there is no usable answer. -/
def generate (p : Provider) (w : Wire) (q : Prompt) : Except GenerateError Value × Wire :=
  if p.canAsk then
    match w.post (p.request q) with
    | (.body v, w) => (answerIn p.kind v, w)
    | (.tooDeep, w) => (.error .tooDeep, w)
    | (.failed _, w) | (.unreadable _, w) => (.ok .null, w)
  else (.ok .null, w)

end Provider

end RepoAudit

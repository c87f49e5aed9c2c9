import RepoAudit.Llm.Provider
import RepoAudit.Settings.Basic

/-! # Which service settings mean

The name of a service is read twice.  Its exact spelling decides on the model, the address and whether
a key is needed; its lower-case form decides on the kind of service that is asked.  A name that
differs from that of the second or of the local service only in its case is read in two ways: the
service gets the model and the address of another one.

* `ProviderKind.IsRespelled` – a name that is read in two ways;
* `LlmDefaults.of_eq_defaults_iff` – the two readings agree on all other names;
* `llmOf_eq_ok` – the settings of a section that says nothing about model and address;
* `provider_agrees_iff` – when the service uses what its own kind has by default.
-/

namespace RepoAudit

/-! ## Two readings of a name -/

namespace ProviderKind

def exactName : ProviderKind → String
  | .anthropic => "anthropic"
  | .openai => "openai"
  | .ollama => "ollama"

/-- A name that means the second or the local service without being its exact name. -/
def IsRespelled (name : String) : Prop :=
  ofName name ≠ .anthropic ∧ name ≠ (ofName name).exactName

instance (name : String) : Decidable (IsRespelled name) :=
  inferInstanceAs (Decidable (_ ∧ _))

theorem ofName_exactName (k : ProviderKind) : ofName k.exactName = k := by
  cases k <;> decide

/-- The kinds of service have different addresses and models. -/
theorem eq_anthropic_of_model {k : ProviderKind}
    (h : LlmDefaults.anthropic.model = k.defaults.model) : k = .anthropic := by
  cases k with
  | anthropic => rfl
  | openai => exact absurd h (by decide)
  | ollama => exact absurd h (by decide)

end ProviderKind

open ProviderKind (ofName exactName IsRespelled ofName_exactName)

namespace LlmDefaults

theorem of_exactName (k : ProviderKind) : of k.exactName = k.defaults := by
  cases k <;> rfl

/-- A name that is not exact has the defaults of the first service. -/
theorem of_inexact {name : String} (h : ∀ k : ProviderKind, name ≠ k.exactName) :
    of name = anthropic := by
  have notOpenai : name ≠ "openai" := h .openai
  have notOllama : name ≠ "ollama" := h .ollama
  simp [of, notOpenai, notOllama]

theorem of_respelled {name : String} (h : IsRespelled name) : of name = anthropic := by
  refine of_inexact fun k same => h.2 ?_
  rw [same, ofName_exactName]

/-- The exact spelling and the lower-case form of a name mean the same service unless the name is
respelled. -/
theorem of_eq_defaults_iff {name : String} :
    of name = (ofName name).defaults ↔ ¬ IsRespelled name := by
  constructor
  · intro same respelled
    rw [of_respelled respelled] at same
    exact respelled.1 (ProviderKind.eq_anthropic_of_model (congrArg model same))
  · intro notRespelled
    by_cases spelled : name = (ofName name).exactName
    · rw [← of_exactName, ← spelled]
    · -- a name that is not exact means the first service, whose defaults it gets
      have first : ofName name = .anthropic :=
        Decidable.byContradiction fun other => notRespelled ⟨other, spelled⟩
      have inexact (k : ProviderKind) : name ≠ k.exactName := by
        intro same
        rw [same, ofName_exactName] at spelled
        exact spelled rfl
      rw [of_inexact inexact, first]
      rfl

theorem endpoint_of_isEmpty (name : String) : (of name).endpoint.isEmpty = false := by
  unfold of
  split
  · decide
  · split <;> decide

end LlmDefaults

/-! ## The settings of a section -/

namespace Settings

theorem textOf_of_writable {fields : List (String × Value)} {key : String}
    (writable : ∀ v, Value.lookup key fields = some v → v.writable = true) (default : String) :
    textOf (.object fields) key default =
      .ok (((Value.lookup key fields).map Value.display).getD default) := by
  simp only [textOf]
  cases found : Value.lookup key fields with
  | none => rfl
  | some v => simp [written, writable v found]

theorem textOf_of_absent {fields : List (String × Value)} {key : String}
    (absent : Value.lookup key fields = none) (default : String) :
    textOf (.object fields) key default = .ok default := by
  rw [textOf, absent]
  rfl

def providerIn (fields : List (String × Value)) : String :=
  ((Value.lookup "provider" fields).map Value.display).getD "anthropic"

/-- The settings of a section that says nothing about model and address. -/
theorem llmOf_eq_ok {fields : List (String × Value)} (env : Environment)
    (writable : ∀ key ∈ ["provider", "api_key"], ∀ v, Value.lookup key fields = some v →
      v.writable = true)
    (noModel : Value.lookup "model" fields = none)
    (noEndpoint : Value.lookup "endpoint" fields = none) :
    ∃ apiKey, llmOf (.object fields) env = .ok
      { provider := providerIn fields
        model := (LlmDefaults.of (providerIn fields)).model
        apiKey := apiKey
        endpoint := (LlmDefaults.of (providerIn fields)).endpoint } := by
  have provider := textOf_of_writable (writable "provider" (by simp)) "anthropic"
  have apiKey := textOf_of_writable (writable "api_key" (by simp)) ""
  rw [llmOf, provider, apiKey]
  simp only [bind, Except.bind, textOf_of_absent noModel, textOf_of_absent noEndpoint]
  exact ⟨_, rfl⟩

end Settings

/-! ## The service -/

namespace LlmSettings

/-- The service that the settings mean uses the model and the address of its own kind, and it can be
asked when it is the local one. -/
structure Agrees (s : LlmSettings) : Prop where
  model : (Provider.ofSettings s).model = (Provider.ofSettings s).kind.defaults.model
  endpoint : (Provider.ofSettings s).endpoint = (Provider.ofSettings s).kind.defaults.endpoint
  enabled : (Provider.ofSettings s).kind = .ollama → s.enabled = true

variable {s : LlmSettings}

/-- A name that means the local service and is not respelled needs no key. -/
theorem enabled_of_ollama (isOllama : ofName s.provider = .ollama)
    (notRespelled : ¬ IsRespelled s.provider) : s.enabled = true := by
  have named : s.provider = "ollama" := by
    refine Decidable.byContradiction fun other => notRespelled ?_
    rw [IsRespelled, isOllama]
    exact ⟨by decide, other⟩
  simp [enabled, named]

/-- Settings with the defaults of their name mean a service with its own defaults unless the name is
respelled. -/
theorem agrees_iff (model : s.model = (LlmDefaults.of s.provider).model)
    (endpoint : s.endpoint = (LlmDefaults.of s.provider).endpoint) :
    s.Agrees ↔ ¬ IsRespelled s.provider := by
  constructor
  · intro agrees respelled
    have same := agrees.model
    rw [show (Provider.ofSettings s).model = s.model from rfl, model,
      LlmDefaults.of_respelled respelled] at same
    exact respelled.1 (ProviderKind.eq_anthropic_of_model same)
  · intro notRespelled
    have same := LlmDefaults.of_eq_defaults_iff.2 notRespelled
    refine ⟨?_, ?_, fun isOllama => enabled_of_ollama isOllama notRespelled⟩
    · exact model.trans (congrArg LlmDefaults.model same)
    · have given : s.endpoint.isEmpty = false := by
        rw [endpoint]
        exact LlmDefaults.endpoint_of_isEmpty _
      simp only [Provider.ofSettings, given, Bool.false_eq_true, if_false]
      exact endpoint.trans (congrArg LlmDefaults.endpoint same)

end LlmSettings

/-- A section that says nothing about model and address has settings, and the service that they mean
uses the model and the address of its own kind, and can be asked without a key if it is the local one,
exactly when the name in the section is not respelled.  A respelled name sends the requests for one
service to the address of another. -/
theorem provider_agrees_iff (fields : List (String × Value)) (env : Environment)
    (writable : ∀ key ∈ ["provider", "api_key"], ∀ v, Value.lookup key fields = some v →
      v.writable = true)
    (noModel : Value.lookup "model" fields = none)
    (noEndpoint : Value.lookup "endpoint" fields = none) :
    ∃ s, Settings.llmOf (.object fields) env = .ok s ∧
      (s.Agrees ↔ ¬ IsRespelled (Settings.providerIn fields)) ∧
      (IsRespelled (Settings.providerIn fields) →
        (Provider.ofSettings s).model = LlmDefaults.anthropic.model ∧
        (Provider.ofSettings s).endpoint = LlmDefaults.anthropic.endpoint) := by
  obtain ⟨apiKey, loaded⟩ := Settings.llmOf_eq_ok env writable noModel noEndpoint
  refine ⟨_, loaded, LlmSettings.agrees_iff rfl rfl, ?_⟩
  intro respelled
  have first := LlmDefaults.of_respelled respelled
  have given := LlmDefaults.endpoint_of_isEmpty (Settings.providerIn fields)
  simp only [Provider.ofSettings, given, Bool.false_eq_true, if_false]
  exact ⟨congrArg LlmDefaults.model first, congrArg LlmDefaults.endpoint first⟩

/-- With the exact name of the second service and a key in the environment everything is its own. -/
theorem provider_agrees_openai :
    ∃ s, Settings.llmOf (.object [("provider", .text "openai")])
        { bindings := [("OPENAI_API_KEY", "key")] } = .ok s ∧ s.Agrees := by
  obtain ⟨s, loaded, agrees, -⟩ :=
    provider_agrees_iff [("provider", .text "openai")] { bindings := [("OPENAI_API_KEY", "key")] }
      (by
        intro key _ v found
        simp only [Value.lookup] at found
        split at found
        · cases found
          rfl
        · cases found)
      rfl rfl
  exact ⟨s, loaded, agrees.2 (by decide)⟩

/-- With a capital letter in its name the local service is sent to the address of the first one, for a
model of the first one, and counts as not available. -/
theorem capital_letter_misdirects :
    ∃ s, Settings.llmOf (.object [("provider", .text "Ollama")]) {} = .ok s ∧
      (Provider.ofSettings s).kind = .ollama ∧
      (Provider.ofSettings s).model ≠ ProviderKind.ollama.defaults.model ∧
      (Provider.ofSettings s).endpoint = ProviderKind.anthropic.defaults.endpoint ∧
      (Provider.ofSettings s).endpoint ≠ ProviderKind.ollama.defaults.endpoint ∧
      s.enabled = false :=
  ⟨_, rfl, by decide, by decide, by decide, by decide, by decide⟩

end RepoAudit

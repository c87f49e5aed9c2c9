import RepoAudit.Llm.Provider

/-! # What a service may send back

A service may send back anything: nothing at all, something that cannot be read, or a document of any form.
Asking gives the answer that stands where the kind of service promises it, and null where it does not.  Two
sorts of replies break the asking off instead: a document that is nested too deeply to be read, whoever sends
it, and a document without fields from the local service.

* `Provider.Answers` – the documents of the promised form, and the answer that they hold;
* `Provider.answerAt?_eq_some_iff`, `Provider.answerIn_of_usable` – what is read out of a document;
* `Provider.Breaks` – what asking does not survive;
* `Provider.generate_returns_iff` – it survives everything else, and with which result.
-/

namespace RepoAudit

def Wire.reply (w : Wire) : Reply :=
  (Wire.next w.replies).1

namespace Provider

/-! ## Documents -/

/-- A document has the form that a kind of service promises, and this answer stands in it. -/
inductive Answers : ProviderKind → Value → Value → Prop
  | anthropic {fields part : List (String × Value)} {parts : List Value} {answer : Value} :
      Value.lookup "content" fields = some (.list (.object part :: parts)) →
      Value.lookup "text" part = some answer → Answers .anthropic (.object fields) answer
  | openai {fields choice message : List (String × Value)} {choices : List Value} {answer : Value} :
      Value.lookup "choices" fields = some (.list (.object choice :: choices)) →
      Value.lookup "message" choice = some (.object message) →
      Value.lookup "content" message = some answer → Answers .openai (.object fields) answer
  | ollama {fields : List (String × Value)} {answer : Value} :
      Value.lookup "response" fields = some answer → Answers .ollama (.object fields) answer

theorem field?_eq_some_iff {v w : Value} {key : String} :
    v.field? key = some w ↔ ∃ fields, v = .object fields ∧ Value.lookup key fields = some w := by
  cases v <;> simp [Value.field?]

/-- A field of the first item, where a text has no fields. -/
theorem first?_field?_iff {v w : Value} {key : String} :
    (∃ item, first? v = some item ∧ item.field? key = some w) ↔
      ∃ fields items, v = .list (.object fields :: items) ∧ Value.lookup key fields = some w := by
  constructor
  · rintro ⟨item, first, found⟩
    obtain ⟨fields, rfl, stored⟩ := field?_eq_some_iff.1 found
    unfold first? at first
    split at first
    · cases first
      exact ⟨fields, _, rfl, stored⟩
    · -- the first character of a text is a text
      obtain ⟨c, -, impossible⟩ := Option.map_eq_some_iff.1 first
      cases impossible
    · cases first
  · rintro ⟨fields, items, rfl, stored⟩
    exact ⟨.object fields, rfl, stored⟩

def answerAt? (kind : ProviderKind) (body : Value) : Option Value :=
  match kind with
  | .anthropic => body.field? "content" >>= first? >>= (·.field? "text")
  | .openai => body.field? "choices" >>= first? >>= (·.field? "message") >>= (·.field? "content")
  | .ollama => body.field? "response"

theorem answerAt?_eq_some_iff {kind : ProviderKind} {body answer : Value} :
    answerAt? kind body = some answer ↔ Answers kind body answer := by
  cases kind with
  | anthropic =>
    simp only [answerAt?, bind, Option.bind_eq_some_iff]
    constructor
    · rintro ⟨item, ⟨content, stored, first⟩, text⟩
      obtain ⟨fields, rfl, inBody⟩ := field?_eq_some_iff.1 stored
      obtain ⟨part, parts, rfl, inPart⟩ := first?_field?_iff.1 ⟨item, first, text⟩
      exact .anthropic inBody inPart
    · rintro ⟨inBody, inPart⟩
      exact ⟨_, ⟨_, inBody, rfl⟩, inPart⟩
  | openai =>
    simp only [answerAt?, bind, Option.bind_eq_some_iff]
    constructor
    · rintro ⟨message, ⟨item, ⟨choices, stored, first⟩, inItem⟩, content⟩
      obtain ⟨fields, rfl, inBody⟩ := field?_eq_some_iff.1 stored
      obtain ⟨choice, others, rfl, inChoice⟩ := first?_field?_iff.1 ⟨item, first, inItem⟩
      obtain ⟨inner, rfl, inMessage⟩ := field?_eq_some_iff.1 content
      exact .openai inBody inChoice inMessage
    · intro answers
      cases answers with
      | openai inBody inChoice inMessage =>
        exact ⟨_, ⟨_, ⟨_, inBody, rfl⟩, inChoice⟩, inMessage⟩
  | ollama =>
    simp only [answerAt?, field?_eq_some_iff]
    constructor
    · rintro ⟨fields, rfl, stored⟩
      exact .ollama stored
    · intro answers
      cases answers with
      | ollama stored => exact ⟨_, rfl, stored⟩

/-- A document on which asking a kind of service breaks off: the local service is asked for a field of
something that has none. -/
def Unusable (kind : ProviderKind) (body : Value) : Prop :=
  kind = .ollama ∧ body ≠ .null ∧ ∀ fields, body ≠ .object fields

theorem Answers.usable {kind : ProviderKind} {body answer : Value} (h : Answers kind body answer) :
    ¬ Unusable kind body := by
  rintro ⟨-, -, notObject⟩
  cases h <;> exact notObject _ rfl

theorem answerIn_of_unusable {kind : ProviderKind} {body : Value} (h : Unusable kind body) :
    answerIn kind body = .error .answerNotObject := by
  obtain ⟨rfl, notNull, notObject⟩ := h
  cases body with
  | null => exact absurd rfl notNull
  | object fields => exact absurd rfl (notObject fields)
  | _ => rfl

/-- In every other document the answer is looked for in its place. -/
theorem answerIn_of_usable {kind : ProviderKind} {body : Value} (h : ¬ Unusable kind body) :
    answerIn kind body = .ok ((answerAt? kind body).getD .null) := by
  cases kind with
  | anthropic => simp [answerIn, answerAt?, Option.bind_assoc]
  | openai => simp [answerIn, answerAt?, Option.bind_assoc]
  | ollama =>
    cases body with
    | null => rfl
    | object fields => rfl
    | _ => exact absurd ⟨rfl, by simp, by simp⟩ h

/-! ## Asking -/

/-- A reply that asking a service does not survive. -/
inductive Breaks (p : Provider) : Reply → Prop
  | tooDeep (asked : p.canAsk = true) : Breaks p .tooDeep
  | unusable {body : Value} (h : Unusable p.kind body) : Breaks p (.body body)

/-- A service can be asked, and its reply holds this answer in its place. -/
def Usable (p : Provider) (reply : Reply) (answer : Value) : Prop :=
  p.canAsk = true ∧ ∃ body, reply = .body body ∧ Answers p.kind body answer

variable {p : Provider} {w : Wire}

def heard (kind : ProviderKind) : Reply → Except GenerateError Value
  | .body body => answerIn kind body
  | .tooDeep => .error .tooDeep
  | .failed _ | .unreadable _ => .ok .null

theorem generate_of_canAsk (q : Prompt) (ready : p.canAsk = true) :
    (p.generate w q).1 = heard p.kind w.reply := by
  have arrives : (w.post (p.request q)).1 = w.reply := rfl
  rw [generate, if_pos ready, ← arrives]
  split <;> rename_i posted <;> rw [posted] <;> rfl

theorem generate_of_no_key (q : Prompt) (missing : p.canAsk = false) :
    p.generate w q = (.ok .null, w) := by
  simp [generate, missing]

theorem Unusable.canAsk {body : Value} (h : Unusable p.kind body) : p.canAsk = true := by
  simp [Provider.canAsk, h.1]

theorem generate_of_breaks (q : Prompt) (h : p.Breaks w.reply) :
    ∃ e, (p.generate w q).1 = .error e := by
  generalize arrives : w.reply = reply at h
  cases h with
  | tooDeep asked => exact ⟨_, by rw [generate_of_canAsk q asked, arrives, heard]⟩
  | unusable unusable =>
    exact ⟨_, by rw [generate_of_canAsk q unusable.canAsk, arrives, heard, answerIn_of_unusable unusable]⟩

theorem generate_of_usable (q : Prompt) {answer : Value} (h : p.Usable w.reply answer) :
    (p.generate w q).1 = .ok answer := by
  obtain ⟨ready, body, arrives, answers⟩ := h
  rw [generate_of_canAsk q ready, arrives, heard, answerIn_of_usable answers.usable,
    answerAt?_eq_some_iff.2 answers]
  rfl

/-- A reply that is neither too much nor of use gives null. -/
theorem generate_of_useless (q : Prompt) (unbroken : ¬ p.Breaks w.reply)
    (noAnswer : ∀ answer, ¬ p.Usable w.reply answer) : (p.generate w q).1 = .ok .null := by
  cases ready : p.canAsk with
  | false => rw [generate_of_no_key q ready]
  | true =>
    rw [generate_of_canAsk q ready]
    cases arrives : w.reply with
    | failed message => rfl
    | unreadable message => rfl
    | tooDeep => exact absurd (arrives ▸ .tooDeep ready) unbroken
    | body body =>
      have usable : ¬ Unusable p.kind body := fun unusable => unbroken (arrives ▸ .unusable unusable)
      have nothing : answerAt? p.kind body = none := by
        cases found : answerAt? p.kind body with
        | none => rfl
        | some answer =>
          exact absurd ⟨ready, body, arrives, answerAt?_eq_some_iff.1 found⟩ (noAnswer answer)
      rw [heard, answerIn_of_usable usable, nothing]
      rfl

/-- Whatever the settings, the prompt and the reply, asking returns unless the reply breaks it off.  It
returns the answer of a reply of the promised form, and null for every other reply that it survives. -/
theorem generate_returns_iff (s : LlmSettings) (w : Wire) (q : Prompt) :
    ((∃ v, ((ofSettings s).generate w q).1 = .ok v) ↔ ¬ (ofSettings s).Breaks w.reply) ∧
      (∀ answer, (ofSettings s).Usable w.reply answer →
        ((ofSettings s).generate w q).1 = .ok answer) ∧
      (¬ (ofSettings s).Breaks w.reply → (∀ answer, ¬ (ofSettings s).Usable w.reply answer) →
        ((ofSettings s).generate w q).1 = .ok .null) := by
  generalize ofSettings s = p
  refine ⟨⟨?_, ?_⟩, fun answer => generate_of_usable q, generate_of_useless q⟩
  · rintro ⟨v, returned⟩ breaks
    obtain ⟨e, failed⟩ := generate_of_breaks q breaks
    cases returned.symm.trans failed
  · intro unbroken
    by_cases usable : ∃ answer, p.Usable w.reply answer
    · obtain ⟨answer, usable⟩ := usable
      exact ⟨answer, generate_of_usable q usable⟩
    · exact ⟨.null, generate_of_useless q unbroken fun answer h => usable ⟨answer, h⟩⟩

/-- A list from the local service breaks the asking off. -/
theorem list_breaks_asking :
    ((ofSettings { provider := "ollama" }).generate { replies := [.body (.list [.int 1])] }
      { text := "hi" }).1 = .error .answerNotObject :=
  rfl

end Provider

end RepoAudit

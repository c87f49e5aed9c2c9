import RepoAudit.DeadCode
import RepoAudit.Llm.Settings
import RepoAudit.Settings.Toml
import RepoAudit.Text.Lines
import RepoAudit.Text.Utf8
import RepoAudit.Value.Convert
import RepoAudit.Value.Printer

/-! # Settings

The settings of a run: configuration text, overridden by the environment.

* `Settings` – the settings;
* `Settings.ofConfig` – from a configuration that is already read;
* `Settings.load` – from the bytes of the configuration file.
-/

namespace RepoAudit

structure GitLabSettings where
  url : String := "https://gitlab.com"
  token : String := ""
  projectId : String := ""
  deriving Repr, DecidableEq, Inhabited

def GitLabSettings.enabled (s : GitLabSettings) : Bool :=
  !s.token.isEmpty && !s.projectId.isEmpty

structure AnalysisSettings where
  testMarkers : List Value := defaultTestMarkers.map .text
  confidence : Number := .float defaultConfidence
  workers : Int := 1
  deriving Inhabited

/-- The settings of a run.  Without a path for the repository it is the working directory. -/
structure Settings where
  repository : Option String := none
  llm : LlmSettings := {}
  gitlab : GitLabSettings := {}
  analysis : AnalysisSettings := {}
  deriving Inhabited

/-- The environment of a run: variables, the home directory of the user, and those of other users by
name. -/
structure Environment where
  bindings : List (String × String) := []
  homeDirectory : String := ""
  otherHomes : List (String × String) := []
  deriving Repr, Inhabited

inductive SettingsError where
  /-- The configuration file is not well-formed text. -/
  | undecodable
  /-- The configuration, or a section of it, has no fields. -/
  | noFields
  /-- A number is out of range. -/
  | overflow
  /-- The test markers are nothing that has items. -/
  | markersNotItems
  /-- The configuration text fails in a way that does not count as a breach of its grammar. -/
  | config (cause : Toml.Failure)
  /-- A value has no written form. -/
  | unwritable
  /-- The path of the repository starts in the home directory of nobody known. -/
  | unknownHome
  deriving Repr, DecidableEq

namespace Environment

/-- A variable that is set and not empty. -/
def get? (env : Environment) (name : String) : Option String :=
  (Table.findIn name env.bindings).filter fun s => !s.isEmpty

end Environment

namespace Settings

/-! ## Sections -/

/-- The fields of a section; an absent section has none. -/
def sectionOf (config : Value) (name : String) : Value :=
  (config.field? name).getD (.object [])

def written (v : Value) : Except SettingsError String :=
  if v.writable then .ok v.display else .error .unwritable

def textOf (section_ : Value) (key default : String) : Except SettingsError String :=
  match section_ with
  | .object fields => ((Value.lookup key fields).map written).getD (.ok default)
  | _ => .error .noFields

def keyVariable? (provider : String) : Option String :=
  if provider = "anthropic" then some "ANTHROPIC_API_KEY"
  else if provider = "openai" then some "OPENAI_API_KEY"
  else none

def llmOf (section_ : Value) (env : Environment) : Except SettingsError LlmSettings := do
  let provider ← textOf section_ "provider" "anthropic"
  let defaults := LlmDefaults.of provider
  let apiKey ← textOf section_ "api_key" ""
  let model ← textOf section_ "model" defaults.model
  let endpoint ← textOf section_ "endpoint" defaults.endpoint
  return {
    provider := provider
    model := model
    apiKey := ((keyVariable? provider).bind env.get?).getD apiKey
    endpoint := endpoint }

def variableOr (env : Environment) (name : String) (section_ : Value) (key default : String) :
    Except SettingsError String :=
  match env.get? name with
  | some s => .ok s
  | none => textOf section_ key default

def gitlabOf (section_ : Value) (env : Environment) : Except SettingsError GitLabSettings := do
  let url ← variableOr env "GITLAB_URL" section_ "url" "https://gitlab.com"
  let token ← variableOr env "GITLAB_TOKEN" section_ "token" ""
  let projectId ← variableOr env "GITLAB_PROJECT_ID" section_ "project_id" ""
  return { url := url, token := token, projectId := projectId }

/-- A number between zero and one; "not a number" and a negative zero stay as they are. -/
def clamp (x : Float) : Float :=
  let low := if x < 0.0 then 0.0 else x
  if 1.0 < low then 1.0 else low

/-- The confidence of findings; the default when the field is no number. -/
def confidenceOf (section_ : Value) : Except SettingsError Float :=
  match section_.field? "confidence" with
  | none => .ok (clamp defaultConfidence)
  | some v =>
    match v.toFloat with
    | .ok x => .ok (clamp x)
    | .error .overflow => .error .overflow
    | .error _ => .ok (clamp defaultConfidence)

/-- The number of workers, at least one; one when the field is no number. -/
def workersOf (section_ : Value) : Except SettingsError Int :=
  match section_.field? "workers" with
  | none => .ok 1
  | some v =>
    match v.toWhole with
    | .ok n => .ok (max 1 n)
    | .error .overflow => .error .overflow
    | .error _ => .ok 1

/-- The items of a value: of a list, of a text its characters, of an object its keys. -/
def itemsOf : Value → Except SettingsError (List Value)
  | .list items => .ok items
  | .text s => .ok ((Text.eachPoint s).map .text)
  | .object fields => .ok (fields.map fun f => .text f.1)
  | _ => .error .markersNotItems

/-- The markers of test files; the default ones when the field says nothing. -/
def markersOf (section_ : Value) : Except SettingsError (List String) :=
  let v := section_.getD "test_markers"
  if v.truthy then do
    let items ← itemsOf v
    items.mapM written
  else .ok defaultTestMarkers

def analysisOf (section_ : Value) : Except SettingsError AnalysisSettings :=
  match section_ with
  | .object _ => do
    let confidence ← confidenceOf section_
    let workers ← workersOf section_
    let markers ← markersOf section_
    return { testMarkers := markers.map .text, confidence := .float confidence, workers := workers }
  | _ => .error .noFields

/-! ## The whole -/

/-- The home directory that the first part of a path means: of the user for a tilde alone, and of
somebody else for a tilde and a name. -/
def homeOf (env : Environment) (name : String) : Except SettingsError String :=
  if name.isEmpty then .ok env.homeDirectory
  else match Table.findIn name env.otherHomes with
    | some home => .ok home
    | none => .error .unknownHome

/-- A path whose first part may be a home directory, written out. -/
def expandHome (env : Environment) (path : String) : Except SettingsError String :=
  let path := Path.plain path
  match Text.splitOn '/' path with
  | first :: rest =>
    if Text.startsWith first "~" then do
      let home ← homeOf env (Text.dropStart first 1)
      return Path.plain (Text.joinWith '/' (home :: rest))
    else .ok path
  | [] => .ok path

def repositoryOf (env : Environment) : Except SettingsError (Option String) :=
  match env.get? "REPO_PATH" with
  | some path => (expandHome env path).map some
  | none => .ok none

def ofConfig (config : Value) (env : Environment) : Except SettingsError Settings := do
  let repository ← repositoryOf env
  match config with
  | .object _ => do
    let llm ← llmOf (sectionOf config "llm") env
    let gitlab ← gitlabOf (sectionOf config "gitlab") env
    let analysis ← analysisOf (sectionOf config "analysis")
    return { repository := repository, llm := llm, gitlab := gitlab, analysis := analysis }
  | _ => .error .noFields

/-- The configuration in the bytes of a file.  Without a file, or when its text is refused, it is
empty. -/
def configOf (file : Option (List UInt8)) : Except SettingsError Value :=
  match file with
  | none => .ok (.object [])
  | some bytes =>
    match Text.Utf8.chars? bytes with
    | none => .error .undecodable
    | some text =>
      match Toml.parse (Text.unifyLineEnds text) with
      | .ok config => .ok config
      | .error .refused => .ok (.object [])
      | .error cause => .error (.config cause)

def load (file : Option (List UInt8)) (env : Environment) : Except SettingsError Settings := do
  let config ← configOf file
  ofConfig config env

end Settings

end RepoAudit

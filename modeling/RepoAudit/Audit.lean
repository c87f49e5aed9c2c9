import RepoAudit.GitLab.Client
import RepoAudit.Health
import RepoAudit.Issue.Review
import RepoAudit.Parsing
import RepoAudit.Settings.Basic

/-! # A whole run

Runs the analyses over a repository, turns their findings into issues, publishes these and scores
them.  An analysis that fails counts as one without findings; the others are not affected.

* `Outside` – what a run sees and whom it talks to;
* `AuditResult` – what a run yields;
* `Audit.run` – the run.
-/

namespace RepoAudit

/-- What a run sees and whom it talks to. -/
structure Outside where
  volume : Volume
  manager : ManagerOutcome := .missing
  llm : Wire := {}
  tracker : Wire := {}
  deriving Inhabited

structure AuditResult where
  issues : List Issue
  findings : Findings
  healthScore : Int
  totalIssues : Nat
  hoursSaved : Number
  deriving Inhabited

inductive AuditError where
  | review (e : ReviewError)
  | tracker (e : TrackerError)
  | health (e : HealthError)
  deriving Repr, DecidableEq

def AuditResult.value (r : AuditResult) : Value :=
  .object
    [("findings", .list (r.issues.map Issue.value)),
     ("deadCode", .list (r.findings.deadCode.map DeadCodeFinding.value)),
     ("duplicates", .list (r.findings.duplicates.map Duplicate.findingValue)),
     ("dependencies", .list (r.findings.dependencies.map Package.findingValue)),
     ("healthScore", .int r.healthScore), ("totalIssues", .int r.totalIssues),
     ("estimatedSavings", .ofNumber r.hoursSaved)]

namespace Audit

def orNone {ε α : Type} : Except ε (List α) → List α
  | .ok findings => findings
  | .error _ => []

def deadCodeOf (v : Volume) (root : Place) (s : AnalysisSettings) :
    Except MarkerError (List DeadCodeFinding) :=
  deadCodeGiven s.testMarkers s.confidence (Parsing.parseProject v root)

/-- The duplicates of a repository, which are looked for only with a language model. -/
def duplicatesOf (v : Volume) (root : Place) (s : LlmSettings) (w : Wire) :
    Except CompareError (List DuplicateFinding) × Wire :=
  if s.enabled then
    Duplicate.compareAll (Provider.ofSettings s) w (Parsing.parseProject v root)
  else (.ok [], w)

def analyse (s : Settings) (root : Place) (o : Outside) : Findings × Outside :=
  let (duplicates, wire) := duplicatesOf o.volume root s.llm o.llm
  ({ deadCode := orNone (deadCodeOf o.volume root s.analysis)
     duplicates := orNone duplicates
     dependencies := orNone (Package.report o.volume root o.manager) },
   { o with llm := wire })

/-- The issues of the findings: those of a review by a language model if there is one and it yields
any, else one for each finding. -/
def issuesOf (s : LlmSettings) (f : Findings) (w : Wire) :
    Except ReviewError (List Issue) × Wire :=
  if s.enabled then
    match Review.ask (Provider.ofSettings s) w f with
    | (.ok [], w) => (.ok (Review.plain f), w)
    | (.ok issues, w) => (.ok issues, w)
    | (.error e, w) => (.error e, w)
  else (.ok (Review.plain f), w)

def publish (s : GitLabSettings) (issues : List Issue) (w : Wire) :
    Except TrackerError Unit × Wire :=
  if s.enabled && !issues.isEmpty then
    let tracker : Tracker := { token := s.token, projectId := s.projectId, url := s.url }
    match tracker.createIssues w issues with
    | (.ok _, w) => (.ok (), w)
    | (.error e, w) => (.error e, w)
  else (.ok (), w)

def summarise (f : Findings) (issues : List Issue) : Except HealthError AuditResult := do
  let score ← healthScore issues
  return { issues := issues, findings := f, healthScore := score, totalIssues := issues.length
           hoursSaved := hoursSaved issues }

def run (s : Settings) (root : Place) (publishing : Bool) (o : Outside) :
    Except AuditError AuditResult × Outside :=
  let (f, o) := analyse s root o
  match issuesOf s.llm f o.llm with
  | (.error e, w) => (.error (.review e), { o with llm := w })
  | (.ok issues, w) =>
    let o := { o with llm := w }
    let (published, t) := if publishing then publish s.gitlab issues o.tracker else (.ok (), o.tracker)
    let o := { o with tracker := t }
    match published with
    | .error e => (.error (.tracker e), o)
    | .ok () =>
      match summarise f issues with
      | .error e => (.error (.health e), o)
      | .ok result => (.ok result, o)

end Audit

end RepoAudit

import RepoAudit.GitLab.Text
import RepoAudit.Table
import RepoAudit.Wire

/-! # Publishing to the tracker

Opens one issue for each severity, and draft merge requests for fixes.

* `Tracker` – a project of a tracker;
* `groupBySeverity` – the issues of each severity, in order of first appearance;
* `Tracker.createIssues` – opens the issues;
* `Tracker.createMergeRequest` – opens a merge request.
-/

namespace RepoAudit

inductive TrackerError where
  /-- A request did not get through or was refused. -/
  | failed (action message : String)
  /-- The answer to a request holds no document. -/
  | noDocument (action : String)
  /-- The project has no address, because its name holds half a surrogate pair. -/
  | noAddress
  /-- The answer to a request has no fields. -/
  | answerNotObject
  /-- The answer to a request is nested too deeply to be read. -/
  | tooDeep
  /-- A description cannot be written. -/
  | format (e : FormatError)
  /-- The time cannot be written in milliseconds. -/
  | clock (e : ConversionError)
  deriving Repr, DecidableEq

/-- The words for a failed request; other errors have none. -/
def TrackerError.message? : TrackerError → Option String
  | .failed action message => some ("POST " ++ action ++ " failed: " ++ message)
  | .noDocument action => some ("POST " ++ action ++ " returned invalid JSON")
  | _ => none

structure Tracker where
  token : String
  projectId : String
  url : String := "https://gitlab.com"
  deriving Repr, DecidableEq, Inhabited

def Issue.severityOrMedium (i : Issue) : String :=
  match i.severity with
  | some s => if s.isEmpty then "medium" else s
  | none => "medium"

/-- The issues of each severity, in order of first appearance. -/
def groupBySeverity (issues : List Issue) : Table String (List Issue) :=
  issues.foldl (fun t i => t.alter i.severityOrMedium fun group => group.getD [] ++ [i]) {}

namespace Tracker

/-- How many seconds an answer may take. -/
def timeout : Nat := 30

def actionUrl (t : Tracker) (action : String) : String :=
  let base := String.ofList (t.url.toList.reverse.dropWhile (· == '/')).reverse
  base ++ "/api/v4/projects/" ++ GitLab.percentEncode t.projectId ++ "/" ++ action

def post (t : Tracker) (w : Wire) (action : String) (payload : Value) :
    Except TrackerError Value × Wire :=
  let request : Request :=
    { url := t.actionUrl action, headers := [("PRIVATE-TOKEN", t.token)], payload := payload
      timeout := timeout }
  if Text.holdsHalf t.projectId then (.error .noAddress, w)
  else match w.post request with
    | (.body v, w) => (.ok v, w)
    | (.failed message, w) => (.error (.failed action message), w)
    | (.unreadable _, w) => (.error (.noDocument action), w)
    | (.tooDeep, w) => (.error .tooDeep, w)

/-- Sends a document and insists on an answer with fields. -/
def postForObject (t : Tracker) (w : Wire) (action : String) (payload : Value) :
    Except TrackerError Value × Wire :=
  match t.post w action payload with
  | (.ok (.object fields), w) => (.ok (.object fields), w)
  | (.ok _, w) => (.error .answerNotObject, w)
  | (.error e, w) => (.error e, w)

def issuePayload (severity : String) (group : List Issue) : Except FormatError Value := do
  let description ← GitLab.issueDescription group
  return .object
    [("title", .text ("Code Health: " ++ severity ++ " Priority Issues ("
        ++ toString group.length ++ " found)")),
     ("description", .text description),
     ("labels", .text ("code-health,technical-debt,severity::" ++ severity))]

/-- Opens one issue for each group; the first failure ends everything. -/
def createGroups (t : Tracker) (w : Wire) :
    List (String × List Issue) → Except TrackerError (List Value) × Wire
  | [] => (.ok [], w)
  | (severity, group) :: rest =>
    match issuePayload severity group with
    | .error e => (.error (.format e), w)
    | .ok payload =>
      match t.postForObject w "issues" payload with
      | (.error e, w) => (.error e, w)
      | (.ok created, w) =>
        match t.createGroups w rest with
        | (.ok others, w) => (.ok (created :: others), w)
        | (.error e, w) => (.error e, w)

def createIssues (t : Tracker) (w : Wire) (issues : List Issue) :
    Except TrackerError (List Value) × Wire :=
  t.createGroups w (groupBySeverity issues).entries

def branchName (fix : Fix) (milliseconds : Int) : String :=
  "code-health/remove-" ++ fix.kind ++ "-" ++ toString milliseconds

def branchPayload (branch target : String) : Value :=
  .object [("branch", .text branch), ("ref", .text target)]

def commitPayload (fix : Fix) (branch : String) : Value :=
  .object
    [("branch", .text branch),
     ("commit_message", .text ("Remove " ++ fix.kind ++ ": " ++ fix.description)),
     ("actions", .list [.object
        [("action", .text "update"), ("file_path", .text fix.path),
         ("content", .text fix.content)]])]

def mergeRequestPayload (fix : Fix) (branch target : String) : Except FormatError Value := do
  let description ← GitLab.mergeRequestDescription fix
  return .object
    [("source_branch", .text branch), ("target_branch", .text target),
     ("title", .text ("Draft: [DRY RUN] Remove " ++ fix.kind)), ("description", .text description),
     ("labels", .text "code-health,automated,needs-review")]

/-- Opens a branch, commits a fix to it and opens a draft merge request.  `now` is the time in
seconds. -/
def createMergeRequest (t : Tracker) (w : Wire) (now : Float) (fix : Fix) (target : String) :
    Except TrackerError Value × Wire :=
  match Value.truncate (now * 1000) with
  | .error e => (.error (.clock e), w)
  | .ok milliseconds =>
    let branch := branchName fix milliseconds
    match t.post w "repository/branches" (branchPayload branch target) with
    | (.error e, w) => (.error e, w)
    | (.ok _, w) =>
      match t.post w "repository/commits" (commitPayload fix branch) with
      | (.error e, w) => (.error e, w)
      | (.ok _, w) =>
        match mergeRequestPayload fix branch target with
        | .error e => (.error (.format e), w)
        | .ok payload => t.postForObject w "merge_requests" payload

end Tracker

end RepoAudit

import RepoAudit.Value.Convert
import RepoAudit.Value.Printer

/-! # Issues

An issue is a finding prepared for people: how bad it is, where it is and what to do about it.  An
issue that comes from outside is decoded leniently.

The free remarks of an issue may be nested to any depth.  Documents that are read have a limit,
`Value.maxNesting`; that a call stack may be used up when deeper remarks are copied is not modelled.

* `Issue` – an issue;
* `Issue.decode` – an issue from the fields of an object;
* `Issue.value` – the fields of an issue.
-/

namespace RepoAudit

/-- A finding prepared for people.  The last five fields are free remarks of whoever reported it. -/
structure Issue where
  kind : Option String := some ""
  severity : Option String := some ""
  confidence : Value := .int 0
  description : String := ""
  recommendation : String := ""
  path : Value := .null
  firstLine : Option Int := none
  lastLine : Option Int := none
  language : Value := .null
  snippet : Value := .null
  buildTimeSaved : Value := .null
  sizeReduction : Value := .null
  deriving Inhabited

inductive IssueError where
  /-- The data is no object. -/
  | notObject
  /-- A line or the confidence is out of range. -/
  | overflow
  deriving Repr, DecidableEq

namespace Issue

def remark (v : Value) : Value :=
  if v.truthy then v else .null

/-- The line number in a field: a whole number other than zero; anything else counts as none. -/
def lineIn (data : Value) (key : String) : Except IssueError (Option Int) :=
  match data.field? key with
  | none => .ok none
  | some v =>
    match v.toWhole with
    | .ok n => .ok (if n = 0 then none else some n)
    | .error .overflow => .error .overflow
    | .error _ => .ok none

/-- The confidence of an issue: zero when it is absent or no number. -/
def confidenceIn (data : Value) : Except IssueError Float :=
  let v := data.getD "confidence"
  match (if v.truthy then v else .int 0).toFloat with
  | .ok x => .ok x
  | .error .overflow => .error .overflow
  | .error _ => .ok 0.0

def textIn (data : Value) (key default : String) : String :=
  match data.field? key with
  | some v => v.display
  | none => default

def ofFields (data : Value) : Except IssueError Issue := do
  let confidence ← confidenceIn data
  let firstLine ← lineIn data "line_start"
  let lastLine ← lineIn data "line_end"
  return {
    kind := some (textIn data "type" "unknown")
    severity := some (textIn data "severity" "medium")
    confidence := .float confidence
    description := textIn data "description" ""
    recommendation := textIn data "recommendation" ""
    path := remark (data.getD "file_path")
    firstLine := firstLine
    lastLine := lastLine
    language := remark (data.getD "language")
    snippet := remark (data.getD "code_snippet")
    buildTimeSaved := remark (data.getD "build_time_saved")
    sizeReduction := remark (data.getD "size_reduction") }

def decode : Value → Except IssueError Issue
  | .object fields => ofFields (.object fields)
  | _ => .error .notObject

def value (i : Issue) : Value :=
  .object
    [("type", .ofText? i.kind), ("severity", .ofText? i.severity), ("confidence", i.confidence),
     ("description", .text i.description), ("recommendation", .text i.recommendation),
     ("file_path", i.path), ("line_start", .ofInt? i.firstLine), ("line_end", .ofInt? i.lastLine),
     ("language", i.language), ("code_snippet", i.snippet),
     ("build_time_saved", i.buildTimeSaved), ("size_reduction", i.sizeReduction)]

end Issue

end RepoAudit

import RepoAudit.DeadCode
import RepoAudit.Duplicate.Comparison
import RepoAudit.Issue.Basic
import RepoAudit.Package.Report

/-! # From findings to issues

Findings become issues in one of two ways: directly, one issue for each finding, or by a language
model, which is shown all findings and answers with a list of issues.

An answer that is nested more deeply than `Value.maxNesting` cannot be read.  Short of that, no limit of a
call stack is modelled: fields of any depth are decoded and written.

* `Findings` – what the analyses found;
* `Review.plain` – one issue for each finding;
* `Review.prompt`, `Review.read` – the question to a model and its answer;
* `Review.ask` – the issues that a model makes of the findings.
-/

namespace RepoAudit

structure Findings where
  deadCode : List DeadCodeFinding := []
  duplicates : List DuplicateFinding := []
  dependencies : List DependencyFinding := []
  deriving Inhabited

inductive ReviewError where
  | generate (e : GenerateError)
  | answer (e : AnswerError)
  | issue (e : IssueError)
  deriving Repr, DecidableEq

namespace Review

/-! ## Directly -/

def percentOf : Number → Number
  | .int n => .int (n * 100)
  | .float x => .float (x * 100)

def ofDeadCode (d : DeadCodeFinding) : Issue :=
  { kind := some "dead_code", severity := some "medium"
    confidence := .ofNumber (percentOf d.confidence)
    description := "Unused function: " ++ d.name, recommendation := d.reason, path := .text d.path
    firstLine := some d.firstLine, lastLine := some d.lastLine }

def ofDuplicate (d : DuplicateFinding) : Issue :=
  { kind := some "duplicate", severity := some "high"
    confidence := .ofNumber (percentOf d.similarity)
    description := "Duplicate code between " ++ d.path1 ++ " and " ++ d.path2
    recommendation := d.recommendation, path := .text d.path1 }

def ofDependency (d : DependencyFinding) : Issue :=
  let unused := d.reason == Package.unusedReason
  { kind := some "dependency", severity := some "low"
    confidence := .int (if unused then 90 else 70)
    description := d.package ++ ": " ++ d.reason
    recommendation := if unused then "Remove unused dependency" else "Update dependency" }

/-- One issue for each finding: dead code, then duplicates, then packages. -/
def plain (f : Findings) : List Issue :=
  f.deadCode.map ofDeadCode ++ f.duplicates.map ofDuplicate ++ f.dependencies.map ofDependency

/-! ## By a language model -/

def maxTokens : Int := 4000

def systemText : String :=
  "You are a senior code reviewer focused on code health and maintainability. "
    ++ "Output only valid JSON."

def promptText (f : Findings) : String :=
  "Analyze this codebase for efficiency issues.\n\nDead code findings: "
    ++ (Value.list (f.deadCode.map DeadCodeFinding.value)).indented
    ++ "\nDuplicate code findings: "
    ++ (Value.list (f.duplicates.map Duplicate.findingValue)).indented
    ++ "\nDependency issues: "
    ++ (Value.list (f.dependencies.map Package.findingValue)).indented
    ++ "\n\nFor each issue:\n1. Assess confidence (0-100%)\n2. Estimate impact (low/medium/high)\n"
    ++ "3. Provide safe removal recommendation\n4. Note any potential side effects\n\n"
    ++ "Output a valid JSON array of issues with this structure:\n"
    ++ "[\x7b\"type\":\"string\",\"severity\":\"low|medium|high\",\"confidence\":0-100,"
    ++ "\"file_path\":\"\",\"line_start\":0,\"line_end\":0,\"description\":\"\","
    ++ "\"recommendation\":\"\",\"build_time_saved\":\"\",\"size_reduction\":\"\","
    ++ "\"language\":\"\",\"code_snippet\":\"\"\x7d]\n"
    ++ "Respond with ONLY the JSON array, no other text."

def prompt (f : Findings) : Prompt :=
  { text := promptText f, maxTokens := maxTokens, system := some systemText }

def isObject : Value → Bool
  | .object _ => true
  | _ => false

/-- The issues in an answer: those items of its list that have fields.  An answer without a list
holds none. -/
def read (answer : Value) : Except ReviewError (List Issue) :=
  match extractDocument .list answer with
  | .error e => .error (.answer e)
  | .ok (some (.list items)) =>
    match (items.filter isObject).mapM Issue.decode with
    | .ok issues => .ok issues
    | .error e => .error (.issue e)
  | .ok _ => .ok []

def ask (p : Provider) (w : Wire) (f : Findings) : Except ReviewError (List Issue) × Wire :=
  match p.generate w (prompt f) with
  | (.ok answer, w) => (read answer, w)
  | (.error e, w) => (.error (.generate e), w)

end Review

end RepoAudit

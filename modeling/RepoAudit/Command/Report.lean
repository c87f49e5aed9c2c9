import RepoAudit.Audit
import RepoAudit.Console.Grid
import RepoAudit.Console.Highlight
import RepoAudit.Console.Markup
import RepoAudit.Console.Panel
import RepoAudit.Text.CodePoint

/-! # Reports on the console

The tables and the panel in which findings are shown.

* `Report.score` – the panel with the score;
* `Report.findings`, `Report.deadCode`, `Report.dependencies` – the tables.
-/

namespace RepoAudit

inductive ShowError where
  | markup (e : Markup.MarkupError)
  /-- A cell holds something other than text. -/
  | notText
  /-- A lone half of a surrogate pair has no place on the console. -/
  | loneHalf
  deriving Repr, DecidableEq

namespace Report

def consoleWidth : Nat := 200

def styled (style s : String) : String :=
  "[" ++ style ++ "]" ++ s ++ "[/" ++ style ++ "]"

def read (s : String) : Except ShowError Styled :=
  (Markup.render s).mapError .markup

/-- Lines for the console, if their styles can be read and it can show all of their characters. -/
def shown (lines : Except StyleError (List (List Char))) : Except ShowError (List (List Char)) := do
  let lines ← lines.mapError fun e => .markup (.style e)
  if lines.any fun line => (Text.points line).any Text.isHalf then .error .loneHalf
  else .ok lines

/-- The lines of a styled text on the console, with its highlights. -/
def text (s : String) : Except ShowError (List (List Char)) := do
  let s ← read s
  shown (Wrap.paragraph consoleWidth (Highlight.mark s))

/-- The lines of a table whose cells are styled texts, which are read column by column. -/
def grid (title : String) (columns : List Column) (rows : List (List String)) :
    Except ShowError (List (List Char)) := do
  let cells ← (List.range columns.length).mapM fun i => rows.mapM fun row => read ((row[i]?).getD "")
  let rows := (List.range rows.length).map fun r =>
    cells.map fun column => (column[r]?).getD (Styled.plain [])
  shown (Grid.lines ⟨title, columns, rows⟩ consoleWidth)

/-! ## The score -/

/-- Hours; only zero is a whole number. -/
def hours : Number → String
  | .int n => toString n
  | .float x => Decimal.general x

def score (r : AuditResult) : List (List Char) :=
  Panel.lines
    { title := "Code Health Score"
      body := [toString r.healthScore ++ "/100", "Total issues: " ++ toString r.totalIssues,
        "Estimated time savings: " ++ hours r.hoursSaved ++ " hours"] }

/-! ## Tables -/

/-- A value as a cell: a text, or a default when it says nothing. -/
def cellOr (default : String) (v : Value) : Except ShowError String :=
  if v.truthy then
    match v with
    | .text s => .ok s
    | _ => .error .notText
  else .ok default

def severityStyle (severity : String) : String :=
  if severity = "high" then "red"
  else if severity = "medium" then "yellow"
  else if severity = "low" then "green"
  else "white"

/-- Where an issue is: its path, with the line when both are known. -/
def location (i : Issue) : Except ShowError String :=
  match i.firstLine with
  | some n => if i.path.truthy && n ≠ 0 then .ok (i.path.display ++ ":" ++ toString n)
      else cellOr "N/A" i.path
  | none => cellOr "N/A" i.path

def issueRow (i : Issue) : Except ShowError (List String) := do
  let severity := i.severity.getD "None"
  let place ← location i
  return [i.kind.getD "", styled (severityStyle severity) severity, place, i.description]

def findings (issues : List Issue) : Except ShowError (List (List Char)) := do
  let rows ← issues.mapM issueRow
  grid "Findings"
    [{ header := "Type" }, { header := "Severity" }, { header := "Location" },
     { header := "Description", least := 30 }] rows

def share : Number → String
  | .int n => Decimal.percent (Decimal.ofWhole n)
  | .float x => Decimal.percent x

def deadCode (found : List DeadCodeFinding) : Except ShowError (List (List Char)) :=
  grid "Dead Code"
    [{ header := "File" }, { header := "Lines", side := .right }, { header := "Function" },
     { header := "Confidence", side := .right }]
    (found.map fun d =>
      [d.path, toString d.firstLine ++ "-" ++ toString d.lastLine, d.name, share d.confidence])

def dependencyRow (d : DependencyFinding) : Except ShowError (List String) := do
  let style := if d.reason == Package.unusedReason then "yellow" else "blue"
  let current ← cellOr "-" d.current
  let latest ← cellOr "-" d.latest
  return [d.package, styled style d.reason, current, latest]

def dependencies (found : List DependencyFinding) : Except ShowError (List (List Char)) := do
  let rows ← found.mapM dependencyRow
  grid "Dependencies"
    [{ header := "Package" }, { header := "Reason" }, { header := "Current" },
     { header := "Latest" }] rows

end Report

end RepoAudit

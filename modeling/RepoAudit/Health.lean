import RepoAudit.Decimal.Reader
import RepoAudit.Issue.Basic
import RepoAudit.Table
import RepoAudit.Text.Lower
import RepoAudit.Total

/-! # Health of a code base

A score from 0 to 100, where 100 means that there is nothing to clean up, and an estimate of the
hours that cleaning up saves.

* `normalizeKind` – the sort of an issue in a uniform spelling;
* `Tally` – the three counts on which the score depends;
* `healthScore` – the score;
* `hoursSaved` – the hours.
-/

namespace RepoAudit

def kindAliases : List (String × String) :=
  [("duplicates", "duplicate"), ("dependencies", "dependency")]

/-- The sort of an issue in a uniform spelling: lower case, with underscores for blanks. -/
def normalizeKind (kind : Option String) : String :=
  let kind := (kind.filter fun k => !k.isEmpty).getD "unknown"
  let key := Text.joinBlanks '_' (Text.lower (Text.trim kind))
  (Table.findIn key kindAliases).getD key

inductive HealthError where
  /-- There are more dead lines than a number can hold. -/
  | overflow
  deriving Repr, DecidableEq

/-- The dead lines that an issue counts for: the lines it spans, or one when it spans none. -/
def deadLines (i : Issue) : Nat :=
  let span := i.lastLine.getD 0 - i.firstLine.getD 0
  if 0 < span then span.toNat else 1

/-- What the score depends on: the number of dead lines, of duplicates and of packages. -/
structure Tally where
  lines : Nat
  duplicates : Nat
  dependencies : Nat
  deriving Repr, DecidableEq

def ofKind (kind : String) (issues : List Issue) : List Issue :=
  issues.filter fun i => normalizeKind i.kind == kind

def totalLines (issues : List Issue) : Nat :=
  total (issues.map deadLines)

def Tally.of (issues : List Issue) : Tally :=
  { lines := totalLines (ofKind "dead_code" issues)
    duplicates := (ofKind "duplicate" issues).length
    dependencies := (ofKind "dependency" issues).length }

/-- The lesser of two numbers, the first unless the second is less. -/
def lesser (x y : Float) : Float := if y < x then y else x

/-- The greater of two numbers, the first unless the second is greater. -/
def greater (x y : Float) : Float := if x < y then y else x

/-- The score for dead lines: a point for every hundred lines, and at most fifty points. -/
def deadCodeScore (lines : Nat) : Except HealthError Float :=
  let points := Decimal.nearest lines (-2)
  if points.isInf then .error .overflow
  else .ok (greater (100.0 - lesser points 50.0) 0.0)

/-- The score for a number of issues: `each` points for every issue, and at most `most`. -/
def countScore (each most count : Nat) : Float :=
  greater (100.0 - Float.ofNat (min (count * each) most)) 0.0

def weightDeadCode : Float := 0.3

def weightDuplicate : Float := 0.4

def weightDependency : Float := 0.2

/-- The weight of complexity.  Nothing measures it, so it always has the full score. -/
def weightComplexity : Float := 0.1

/-- The weighted mean of the four scores, between 0 and 100, rounded; a half goes to the even
neighbour. -/
def Tally.score (t : Tally) : Except HealthError Int := do
  let dead ← deadCodeScore t.lines
  let weighted := dead * weightDeadCode + countScore 5 60 t.duplicates * weightDuplicate
    + countScore 3 40 t.dependencies * weightDependency + 100.0 * weightComplexity
  let total := weightDeadCode + weightDuplicate + weightDependency + weightComplexity
  match Decimal.Binary.ofFloat (lesser 100.0 (greater 0.0 (weighted / total))) with
  | .finite _ m e => return (Decimal.Fraction.ofBinary m e).round
  | _ => return 0

def healthScore (issues : List Issue) : Except HealthError Int :=
  (Tally.of issues).score

def hoursFor (kind : String) : Float :=
  if kind = "dead_code" then 0.5
  else if kind = "duplicate" then 2.0
  else if kind = "dependency" then 0.25
  else 0.0

/-- The hours that all issues save together; without issues a whole zero. -/
def hoursSaved (issues : List Issue) : Number :=
  match issues with
  | [] => .int 0
  | issues => .float (issues.foldl (fun sum i => sum + hoursFor (normalizeKind i.kind)) 0.0)

end RepoAudit

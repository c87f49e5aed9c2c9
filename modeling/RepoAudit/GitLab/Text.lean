import RepoAudit.Decimal.Layout
import RepoAudit.Decimal.Reader
import RepoAudit.Issue.Basic
import RepoAudit.Text.Fence
import RepoAudit.Text.Utf8

/-! # Texts for the tracker

The descriptions of the issues and merge requests that are opened in a tracker.

* `GitLab.amount` – a number in a description;
* `GitLab.issueDescription` – the description of several issues;
* `GitLab.mergeRequestDescription` – the description of a fix;
* `GitLab.percentEncode` – a text as part of an address.
-/

namespace RepoAudit

inductive FormatError where
  /-- The whole number is out of range. -/
  | overflow
  /-- The value is a text where a number is wanted. -/
  | isText
  /-- The value is nothing that could be a number. -/
  | notNumber
  /-- The value holds a whole number with too many digits, or a moment that has no form. -/
  | unwritable
  deriving Repr, DecidableEq

structure Fix where
  kind : String
  description : String
  path : String
  content : String
  confidence : Value
  diff : String
  impact : String
  deriving Inhabited

namespace GitLab

open Text (fence tick)

/-- A value as a number with at most six digits. -/
def amount : Value → Except FormatError String
  | .float x => .ok (Decimal.general x)
  | .bool b => .ok (if b then "1" else "0")
  | .int n =>
    match Value.widen n with
    | .ok x => .ok (Decimal.general x)
    | .error _ => .error .overflow
  | .text _ => .error .isText
  | .null | .moment _ | .list _ | .object _ => .error .notNumber

/-- A value that says something, or a default text. -/
def shownOr (default : String) (v : Value) : Except FormatError String :=
  if !v.truthy then .ok default
  else if v.writable then .ok v.display
  else .error .unwritable

/-- The section about one issue, by its number.  What cannot be written is noticed from left to right. -/
def issueSection (number : Nat) (i : Issue) : Except FormatError String := do
  let title := if i.description.isEmpty then "Code Health Issue" else i.description
  let path ← shownOr "" i.path
  let firstLine ← shownOr "0" (.ofInt? i.firstLine)
  let lastLine ← shownOr "0" (.ofInt? i.lastLine)
  let confidence ← amount i.confidence
  let language ← shownOr "text" i.language
  let snippet ← shownOr "" i.snippet
  return "### " ++ toString number ++ ". " ++ title ++ "\n\n"
    ++ "**File:** " ++ tick ++ path ++ tick ++ "\n"
    ++ "**Lines:** " ++ firstLine ++ "-" ++ lastLine ++ "\n"
    ++ "**Confidence:** " ++ confidence ++ "%\n\n"
    ++ "**Recommendation:**\n" ++ i.recommendation ++ "\n\n"
    ++ fence ++ language ++ "\n" ++ snippet ++ "\n" ++ fence
    ++ "\n\n---\n"

def issueSections (number : Nat) : List Issue → Except FormatError (List String)
  | [] => .ok []
  | i :: rest => do
    let first ← issueSection number i
    let others ← issueSections (number + 1) rest
    return first :: others

def issueDescription (issues : List Issue) : Except FormatError String := do
  let sections ← issueSections 1 issues
  return "## Code Health Issues Found\n\nThis issue contains " ++ toString issues.length
    ++ " code health findings that should be reviewed.\n\n" ++ "\n".intercalate sections
    ++ "\n## Next Steps\n1. Review each finding\n2. Create MRs for confirmed issues\n"
    ++ "3. Close issue when all items are addressed"

def mergeRequestDescription (fix : Fix) : Except FormatError String := do
  let confidence ← amount fix.confidence
  return "## Automated Code Health Fix\n\n**Type:** " ++ fix.kind ++ "\n**Confidence:** "
    ++ confidence ++ "%\n\n### What This Removes\n" ++ fence ++ "diff\n" ++ fix.diff ++ "\n" ++ fence
    ++ "\n\n### Impact Analysis\n" ++ fix.impact ++ "\n\n### Review Checklist\n"
    ++ "- [ ] Verify no runtime dependencies\n- [ ] Check test coverage\n- [ ] Confirm build passes\n\n"
    ++ "---\n**This is a DRY RUN MR** - Review carefully before merging"

/-- Whether a byte stands for itself in an address. -/
def isUnreserved (b : UInt8) : Bool :=
  let c := Char.ofNat b.toNat
  b < 0x80 && (c.isAlphanum || c == '_' || c == '.' || c == '-' || c == '~')

/-- A text as one part of an address: every byte but letters, digits and four signs is written by
its number. -/
def percentEncode (s : String) : String :=
  String.ofList <| (Text.Utf8.encode s).flatMap fun b =>
    if isUnreserved b then [Char.ofNat b.toNat]
    else '%' :: (Value.hex 2 b.toNat).map Char.toUpper

end GitLab

end RepoAudit

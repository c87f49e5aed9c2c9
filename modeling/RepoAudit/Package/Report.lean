import RepoAudit.Discovery
import RepoAudit.Package.Import
import RepoAudit.Package.Manifest
import RepoAudit.Text.Lines

/-! # Dependency report

Declared packages that no script imports, and packages that a newer version exists of.  What is
outdated is learned from the package manager.

* `DependencyFinding` – a finding about a package;
* `Package.used` – the packages that the scripts of a repository import;
* `Package.outdated` – what the package manager says;
* `Package.report` – the findings.
-/

namespace RepoAudit

/-- A finding about a package; the versions are whatever the manifest or the package manager
says. -/
structure DependencyFinding where
  package : String
  reason : String
  current : Value := .null
  latest : Value := .null
  deriving Inhabited

inductive ManagerOutcome where
  /-- There is none. -/
  | missing
  /-- It did not answer in time. -/
  | timedOut
  /-- It printed something, or nothing. -/
  | printed (output : Option String)
  deriving Repr, Inhabited

namespace Package

def findingValue (d : DependencyFinding) : Value :=
  .object
    [("package", .text d.package), ("reason", .text d.reason), ("current_version", d.current),
     ("latest_version", d.latest)]

def unusedReason : String := "unused"

def outdatedReason : String := "outdated"

/-- The text of a script, read leniently and with plain line ends. -/
def scriptText (bytes : List UInt8) : String :=
  String.ofList (Text.unifyLineEnds (Text.Utf8.decodeLossy bytes).toList)

def used (v : Volume) (root : Place) : List String :=
  let texts := (Discovery.findDefault v root).filterMap fun way =>
    (v.locate root way).toOption.bind fun place => (v.fileAt? place).map fun f => scriptText f.bytes
  (texts.flatMap importedPackages).eraseDups

def outdatedFinding? (entry : String × Value) : Option DependencyFinding :=
  match entry.2 with
  | .object _ => some
      { package := entry.1, reason := outdatedReason, current := entry.2.getD "current"
        latest := entry.2.getD "latest" }
  | _ => none

def outdated (outcome : ManagerOutcome) : Except ManifestError (List DependencyFinding) :=
  match outcome with
  | .missing | .timedOut | .printed none => .ok []
  | .printed (some output) =>
    let text := Text.trim output
    if text.isEmpty then .ok []
    else match Value.parse text with
      | .error .malformed => .ok []
      | .error cause => .error (.unreadable cause)
      | .ok (.object fields) => .ok (fields.filterMap outdatedFinding?)
      | .ok _ => .error .notObject

/-- The findings about declared packages that nothing imports, in the order of declaration. -/
def unused (declared : List (String × Value)) (imported : List String) : List DependencyFinding :=
  (declared.filter fun d => !isUsed d.1 imported).map fun d =>
    { package := d.1, reason := unusedReason, current := d.2 }

/-- The findings about the packages of a repository: first the unused ones, then the outdated ones.
A repository that declares no package has no findings. -/
def report (v : Volume) (root : Place) (outcome : ManagerOutcome) :
    Except ManifestError (List DependencyFinding) := do
  let declared ← Manifest.declared v root
  if declared.isEmpty then return []
  return unused declared (used v root) ++ (← outdated outcome)

end Package

end RepoAudit

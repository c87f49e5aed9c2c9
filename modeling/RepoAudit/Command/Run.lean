import RepoAudit.Command.Arguments
import RepoAudit.Command.Report

/-! # Commands

Runs a command and says what it prints and how it ends.

* `Outcome` – what is printed, the exit code, and the fault if there is one;
* `Command.run` – runs a command line.
-/

namespace RepoAudit

inductive Fault where
  /-- The path of the repository is too long. -/
  | pathTooLong
  | settings (e : SettingsError)
  | markers (e : MarkerError)
  | manifest (e : ManifestError)
  | audit (e : AuditError)
  | console (e : ShowError)
  deriving Repr, DecidableEq

/-- How a command ends: the lines that it printed, its exit code, and the fault that broke it off. -/
structure Outcome where
  output : List String := []
  exitCode : Nat := 0
  fault : Option Fault := none
  usage : Option UsageError := none
  deriving Repr, Inhabited

namespace Outcome

def broken (f : Fault) (output : List String := []) : Outcome :=
  { output := output, exitCode := 1, fault := some f }

/-- A command that printed lines, after some others, unless these cannot be shown. -/
def shown (exitCode : Nat) (before : List String := []) :
    Except ShowError (List (List Char)) → Outcome
  | .ok lines => { output := before ++ lines.map String.ofList, exitCode := exitCode }
  | .error e => broken (.console e) before

/-- A command that printed lines, and further ones if the first can be shown. -/
def andThen (o : Outcome) (next : List String → Outcome) : Outcome :=
  if o.fault.isNone then next o.output else o

end Outcome

namespace Command

def versionText : String := "CodeHealth CLI v0.1.0"

def helpText : List String :=
  ["Usage: codehealth [--version] [--verbose] COMMAND [ARGS]", "",
   "Commands:", "  analyze    run every analysis and print the health report",
   "  dead-code  report functions and methods that nothing refers to",
   "  deps       report unused and outdated packages"]

/-- What is wrong with a repository on the command line: it leads to a file, also when it ends in a
slash, or no directory can have its path. -/
def repositoryError? (v : Volume) (path : String) : Option UsageError :=
  if (Path.nameError? path).isSome || Text.holdsHalf path then some (.unnameable path)
  else match v.locatePath v.home path with
    | .ok place => if v.isFile place then some (.notDirectory path) else none
    | .error _ => none

inductive Whereabouts where
  | found (root : Place)
  /-- There is no directory at the path. -/
  | nowhere (path : String)
  | tooLong
  deriving Repr, DecidableEq

/-- The directory of the repository: as given, else as set, else the working directory. -/
def repository (v : Volume) (given set : Option String) : Whereabouts :=
  match (given.map Path.plain).or set with
  | none => .found v.home
  | some path =>
    match v.locatePath v.home path with
    | .ok place => if v.isDirectory place then .found place else .nowhere path
    | .error .tooLong => .tooLong
    | .error _ => .nowhere path

def document (v : Value) : List String :=
  Text.splitOn '\n' v.indented

/-! ## The commands -/

def showResult (r : AuditResult) (limit : Nat) : Outcome :=
  let panel := (Report.score r).map String.ofList
  if r.issues.isEmpty then
    .shown 0 panel (Report.text (Report.styled "green" "✓" ++ " No issues found."))
  else
    (Outcome.shown 0 panel (Report.findings (r.issues.take limit))).andThen fun before =>
      if limit < r.issues.length then
        .shown 0 before (Report.text ("  ... and " ++ toString (r.issues.length - limit) ++ " more"))
      else { output := before }

def analyze (s : Settings) (root : Place) (asJson publish : Bool) (limit : Nat) (o : Outside) :
    Outcome × Outside :=
  match Audit.run s root publish o with
  | (.ok r, o) => (if asJson then { output := document r.value } else showResult r limit, o)
  | (.error (.tracker e), o) =>
    match e.message? with
    | some m =>
      (.shown 1 [] (Report.text (Report.styled "red" "✗" ++ " Publishing to GitLab failed: " ++ m)), o)
    | none => (.broken (.audit (.tracker e)), o)
  | (.error e, o) => (.broken (.audit e), o)

def deadCode (s : Settings) (root : Place) (asJson : Bool) (o : Outside) : Outcome :=
  match Audit.deadCodeOf o.volume root s.analysis with
  | .error e => .broken (.markers e)
  | .ok found =>
    if asJson then { output := document (.list (found.map DeadCodeFinding.value)) }
    else if found.isEmpty then
      .shown 0 [] (Report.text (Report.styled "green" "✓" ++ " No dead code found."))
    else
      (Outcome.shown 0 [] (Report.deadCode found)).andThen fun before =>
        .shown 0 before (Report.text
          ("\n" ++ Report.styled "bold" (toString found.length) ++ " unreferenced declaration(s)."))

def deps (root : Place) (o : Outside) : Outcome :=
  match Package.report o.volume root o.manager with
  | .error e => .broken (.manifest e)
  | .ok [] => .shown 0 [] (Report.text (Report.styled "green" "✓" ++ " No dependency issues found."))
  | .ok found => .shown 0 [] (Report.dependencies found)

/-- Runs a command on its repository, once settings are loaded. -/
def onRepository (config : Option (List UInt8)) (env : Environment) (given : Option String)
    (o : Outside) (command : Settings → Place → Outcome × Outside) : Outcome × Outside :=
  match given.bind (repositoryError? o.volume) with
  | some e => ({ exitCode := 2, usage := some e }, o)
  | none =>
    match Settings.load config env with
    | .error e => (.broken (.settings e), o)
    | .ok s =>
      match repository o.volume given s.repository with
      | .found root => command s root
      | .tooLong => (.broken .pathTooLong, o)
      | .nowhere path =>
        (.shown 1 [] (Report.text
          (Report.styled "red" "✗" ++ " Repository path '" ++ path ++ "' does not exist.")), o)

/-- Runs a command line, given the bytes of the configuration file and the environment. -/
def run (config : Option (List UInt8)) (env : Environment) (arguments : List String)
    (o : Outside) : Outcome × Outside :=
  match Invocation.ofArguments arguments with
  | .error e => ({ exitCode := 2, usage := some e }, o)
  | .ok .version => ({ output := [versionText] }, o)
  | .ok .help => ({ output := helpText }, o)
  | .ok (.analyze given asJson publish limit) =>
    onRepository config env given o fun s root => analyze s root asJson publish limit o
  | .ok (.deadCode given asJson) =>
    onRepository config env given o fun s root => (deadCode s root asJson o, o)
  | .ok (.deps given) => onRepository config env given o fun _ root => (deps root o, o)

end Command

end RepoAudit

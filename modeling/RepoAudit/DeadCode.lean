import RepoAudit.CallGraph
import RepoAudit.Declaration
import RepoAudit.Value.Basic

/-! # Dead code

A declaration that is no root and that no call of the program reaches is reported as dead.  A call
that cannot be resolved counts for nothing.

* `enclosingCaller` – whom a call is attributed to;
* `callGraph` – the calls of a program;
* `Reachability.of` – the state of a declaration;
* `deadCode` – the report;
* `deadCodeGiven` – the report for markers as they are given.
-/

namespace RepoAudit

open Syntax

/-! ## The calls of a program -/

/-- Whom a call is attributed to: the nearest function around it that has a name of its own, else
the module.  Functions known by position only are passed over. -/
def enclosingCaller (f : Source) (c : Cursor) : String :=
  (c.ancestors.findSome? fun a =>
    if a.kind.isFunctionLike then
      (f.qualifiedName? a).filter fun name => !Text.endsWith name ">"
    else none).getD f.moduleScopeName

/-- The expressions that are called in a source file, with the calls, in document order. -/
def callSites (f : Source) : List Cursor :=
  f.root.walk.filter (·.kind == "call_expression")

def calleeOf (p : Program) (m : Module) (call : Cursor) : Option String :=
  match call.child? "function" with
  | some callee => p.resolveCallee m callee
  | none => none

/-- The resolved calls of a source file as pairs of callee and caller, in document order. -/
def fileEdges (p : Program) (f : Source) : List (String × String) :=
  match p.module? f.path with
  | some m => (callSites f).filterMap fun call =>
      (calleeOf p m call).map fun callee => (callee, enclosingCaller m.source call)
  | none => []

def fileGraph (p : Program) (f : Source) : CallGraph :=
  (fileEdges p f).foldl (fun g e => g.addEdge e.1 e.2) .empty

def callGraph (p : Program) (sources : List Source) : CallGraph :=
  sources.foldl (fun g f => g.merge (fileGraph p f)) .empty

/-! ## States of declarations -/

inductive Reachability where
  /-- Used whoever calls it. -/
  | root
  /-- Called somewhere. -/
  | referenced
  /-- Neither. -/
  | unreferenced
  deriving Repr, DecidableEq, Inhabited

def Reachability.of (g : CallGraph) (d : Declaration) : Reachability :=
  if d.isRoot then .root
  else if g.contains d.qualifiedName then .referenced
  else .unreferenced

structure DeadCodeFinding where
  path : String
  name : String
  firstLine : Int
  lastLine : Int
  confidence : Number
  reason : String
  qualifiedName : String := ""
  deriving Inhabited

def deadCodeReason : String :=
  "Function has no internal references and is not exported"

def Declaration.finding (confidence : Number) (d : Declaration) : DeadCodeFinding :=
  { path := d.path, name := d.name, firstLine := d.firstLine, lastLine := d.lastLine
    confidence := confidence, reason := deadCodeReason, qualifiedName := d.qualifiedName }

def deadCodeFindings (confidence : Number) (g : CallGraph) (ds : List Declaration) :
    List DeadCodeFinding :=
  (ds.filter fun d => Reachability.of g d == .unreferenced).map (Declaration.finding confidence)

def defaultConfidence : Float := 0.9

/-- The declarations of a program, in the order of its files and then of the documents. -/
def allDeclarations (p : Program) (markers : List String) (sources : List Source) :
    List Declaration :=
  sources.flatMap (declarationsOf p markers)

def deadCode (markers : List String) (confidence : Number) (sources : List Source) :
    List DeadCodeFinding :=
  let p := Program.ofSources sources
  deadCodeFindings confidence (callGraph p sources) (allDeclarations p markers sources)

/-- The texts among the markers as they are given, if the markers can be looked for in the path of
every source file. -/
def usableMarkers (markers : List Value) (sources : List Source) :
    Except MarkerError (List String) :=
  (sources.mapM fun f => holdsMarker f.path markers).map fun _ => markerTexts markers

/-- The report of dead code for markers as they are given. -/
def deadCodeGiven (markers : List Value) (confidence : Number) (sources : List Source) :
    Except MarkerError (List DeadCodeFinding) := do
  let texts ← usableMarkers markers sources
  return deadCode texts confidence sources

def DeadCodeFinding.value (d : DeadCodeFinding) : Value :=
  .object
    [("filePath", .text d.path), ("functionName", .text d.name), ("lineStart", .int d.firstLine),
     ("lineEnd", .int d.lastLine), ("confidence", .ofNumber d.confidence),
     ("reason", .text d.reason), ("qualifiedName", .text d.qualifiedName)]

end RepoAudit

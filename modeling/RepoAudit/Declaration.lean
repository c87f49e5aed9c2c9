import RepoAudit.Symbol.Export
import RepoAudit.Symbol.Resolve
import RepoAudit.Value.Basic

/-! # Declarations

The functions and methods of a program that a report may be about.

* `Declaration` – a declared function or method with what is known about it;
* `isTestFile` – which files are tests;
* `isCandidate` – which nodes are declarations: constructors and accessors are not;
* `declarationsOf` – the declarations of a source file, in document order.
-/

namespace RepoAudit

open Syntax

structure Declaration where
  qualifiedName : String
  name : String
  path : String
  firstLine : Int
  lastLine : Int
  exported : Bool := false
  annotated : Bool := false
  inTestFile : Bool := false
  deriving Repr, DecidableEq, Inhabited

/-- Whether a declaration counts as used whoever calls it. -/
def Declaration.isRoot (d : Declaration) : Bool :=
  d.exported || d.inTestFile || d.annotated

def defaultTestMarkers : List String := [".test.", ".spec."]

def isTestFile (path : String) (markers : List String) : Bool :=
  markers.any (Text.holds path)

inductive MarkerError where
  /-- A marker is no text. -/
  | notText
  deriving Repr, DecidableEq

/-- Whether a path holds one of the markers as they are given.  They are tried in order, and one that
is no text ends the search. -/
def holdsMarker (path : String) : List Value → Except MarkerError Bool
  | [] => .ok false
  | .text marker :: rest => if Text.holds path marker then .ok true else holdsMarker path rest
  | _ :: _ => .error .notText

/-- The texts among markers as they are given, up to the first one that is none. -/
def markerTexts : List Value → List String
  | .text marker :: rest => marker :: markerTexts rest
  | _ => []

/-- Where markers can be looked for, they mark what the texts among them mark. -/
theorem holdsMarker_eq {path : String} {markers : List Value} {b : Bool}
    (h : holdsMarker path markers = .ok b) : isTestFile path (markerTexts markers) = b := by
  fun_induction holdsMarker path markers with
  | case1 => simp_all [isTestFile, markerTexts]
  | case2 marker rest found => simp_all [isTestFile, markerTexts]
  | case3 marker rest missing ih =>
    have := ih h
    simp_all [isTestFile, markerTexts]
  | case4 => simp at h

namespace Source

/-- Whether a node is a function declaration or a method that may be reported: it has a body and is
neither an accessor nor a constructor. -/
def isCandidate (f : Source) (c : Cursor) : Bool :=
  if c.kind.isFunctionDeclaration then (c.child? "body").isSome
  else if c.kind != "method_definition" then false
  else if c.children.any (fun k => !k.node.named && (k.kind == "get" || k.kind == "set")) then false
  else
    let isConstructor := match c.child? "name" with
      | some name => name.kind == "property_identifier" && f.text name.node == "constructor"
      | none => false
    !isConstructor && (c.child? "body").isSome

end Source

/-- The declaration of a node of a source file, if the node is one and can be named.  What names and
exports mean comes from the module that stands for the path of the file. -/
def declaration? (m : Module) (markers : List String) (f : Source) (c : Cursor) :
    Option Declaration :=
  if f.isCandidate c then
    (m.source.qualifiedName? c).map fun qualified =>
      { qualifiedName := qualified
        name := match c.child? "name" with
          | some name => f.text name.node
          | none => Text.afterLast '.' qualified
        path := f.path
        firstLine := f.firstLine c.node
        lastLine := f.lastLine c.node
        exported := m.isExported c
        annotated := isAnnotated c
        inTestFile := isTestFile f.path markers }
  else none

def declarationsOf (p : Program) (markers : List String) (f : Source) : List Declaration :=
  match p.module? f.path with
  | some m => f.root.walk.filterMap (declaration? m markers f)
  | none => []

end RepoAudit

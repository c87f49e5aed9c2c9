import RepoAudit.Path
import RepoAudit.Syntax.Node
import RepoAudit.Table

/-! # Files and directories

A volume holds the files that a run can see, each with its bytes and, for a script that the grammar
accepts, its syntax tree.  Places are lists of names below the base of the volume; directories exist
because something lies in them, or because they are listed themselves.

* `Volume` – files and directories below a base;
* `Volume.locate` – follows a path from a place;
* `Volume.resolve` – the place that a path means, whether or not something is there;
* `Volume.names`, `Volume.directoriesBelow` – what lies in a directory.
-/

namespace RepoAudit

open Syntax

/-- The contents of a file.  A file without a tree is no well-formed script. -/
structure File where
  bytes : List UInt8
  tree : Option Node := none
  deriving Inhabited

inductive Entry where
  | file (f : File)
  | directory
  deriving Inhabited

/-- A place: the names that lead to it from the base. -/
abbrev Place := List String

/-- Files and directories below a base, whose own absolute path is the text `base`.  Relative paths
start at `home`. -/
structure Volume where
  base : String
  home : Place
  entries : Table Place Entry := {}
  deriving Inhabited

inductive LocateError where
  /-- Nothing is there. -/
  | missing
  /-- The path goes through a file. -/
  | throughFile
  /-- The path, or a name that is looked up in a directory, has too many bytes. -/
  | tooLong
  deriving Repr, DecidableEq

namespace Volume

variable (v : Volume)

def above (p q : Place) : Bool :=
  p.isPrefixOf q && p.length < q.length

def isDirectory (p : Place) : Bool :=
  p.isEmpty || v.entries.entries.any fun e =>
    match e.2 with
    | .directory => p.isPrefixOf e.1
    | .file _ => above p e.1

def fileAt? (p : Place) : Option File :=
  match v.entries.find? p with
  | some (.file f) => some f
  | _ => none

def isFile (p : Place) : Bool :=
  (v.fileAt? p).isSome

def occupied (p : Place) : Bool :=
  v.isFile p || v.isDirectory p

/-- The names of what lies directly in a directory, without repetitions. -/
def names (p : Place) : List String :=
  ((v.entries.keys.filter (above p)).filterMap fun q => (q.drop p.length).head?).eraseDups

/-- Every place on the way to another, from the base on. -/
def placesTo : Place → List Place
  | [] => [[]]
  | n :: rest => [] :: (placesTo rest).map (n :: ·)

/-- The directories at and below a place, each by the way that leads there. -/
def directoriesBelow (p : Place) : List Place :=
  let places := (v.entries.keys.flatMap placesTo).eraseDups
  if v.isDirectory p then
    [] :: (places.filter fun q => above p q && v.isDirectory q).map fun q => q.drop p.length
  else []

/-- Why nothing can be opened outside the volume, where nothing is known but the directory that the
parts start from. -/
def outside (parts : List String) : LocateError :=
  match parts.find? (· ≠ "..") with
  | some part => if Path.maxNameBytes < Path.byteCount part then .tooLong else .missing
  | none => .missing

/-- Follows the parts of a path from a place.  Every place on the way must be a directory. -/
def locate (start : Place) : List String → Except LocateError Place
  | [] => if v.occupied start then .ok start else .error .missing
  | part :: parts =>
    if v.isDirectory start then
      if part = ".." then
        match start.getLast? with
        | some _ => locate start.dropLast parts
        | none => .error (outside parts)
      else if Path.maxNameBytes < Path.byteCount part then .error .tooLong
      else locate (start ++ [part]) parts
    else if v.isFile start then .error .throughFile
    else .error .missing

/-- Follows a path from a place; an absolute path leads out of the volume. -/
def locatePath (start : Place) (path : String) : Except LocateError Place :=
  let parts := Path.plainParts path
  if Path.maxPathBytes < Path.byteCount (Path.plain path) then .error .tooLong
  else if Text.startsWith path "/" then .error (outside parts)
  else v.locate start parts

/-- The place that the parts of a path mean, seen from a place; nothing when they lead out of the
volume. -/
def resolveParts (start : Place) : List String → Option Place
  | [] => some start
  | part :: parts =>
    if part = ".." then
      if start.isEmpty then none else resolveParts start.dropLast parts
    else resolveParts (start ++ [part]) parts

def resolve (start : Place) (path : String) : Option Place :=
  if Text.startsWith path "/" then none else resolveParts start (Path.plainParts path)

def absolute (p : Place) : String :=
  Text.joinWith '/' (v.base :: p)

def locateFrom (start way : Place) : Except LocateError Place :=
  if Path.maxPathBytes < Path.byteCount (v.absolute (start ++ way)) then .error .tooLong
  else v.locate start way

/-- The path of a place as seen from a root: relative when the place lies at or below the root, and
absolute otherwise. -/
def relative (root p : Place) : String :=
  if root.isPrefixOf p then
    match p.drop root.length with
    | [] => "."
    | parts => Text.joinWith '/' parts
  else v.absolute p

end Volume

end RepoAudit

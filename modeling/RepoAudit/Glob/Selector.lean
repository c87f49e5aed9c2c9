import RepoAudit.Glob.Wildcard
import RepoAudit.Volume

/-! # Selecting files by pattern

A pattern for paths has one part for each name on the way: a name, a name with wildcards, or `**`,
which stands for any number of directories.  A slash at the end accepts directories only.

* `Glob.parse` – reads a pattern;
* `Glob.select` – the paths below a directory that a pattern accepts.
-/

namespace RepoAudit

inductive GlobPart where
  /-- Any number of directories. -/
  | anyDepth
  /-- A name with wildcards. -/
  | wild (w : Wildcard)
  /-- A name as it is, `..` included. -/
  | exact (name : String)
  deriving Repr, DecidableEq

structure Glob where
  parts : List GlobPart
  directoriesOnly : Bool := false
  deriving Repr, DecidableEq

inductive GlobError where
  /-- The text is empty. -/
  | empty
  /-- The pattern is not relative. -/
  | absolute
  /-- Two stars stand beside other characters. -/
  | strayStars
  /-- Nothing is left once every `.` is dropped. -/
  | nothingLeft
  /-- Only a slash is left once every `.` is dropped. -/
  | onlySlash
  deriving Repr, DecidableEq

namespace Glob

def hasWildcard (name : String) : Bool :=
  name.toList.any fun c => c == '*' || c == '?' || c == '['

def parsePart (part : String) : Except GlobError GlobPart :=
  if part = "**" then .ok .anyDepth
  else if Text.holds part "**" then .error .strayStars
  else if hasWildcard part then .ok (.wild (Wildcard.parse part))
  else .ok (.exact part)

def parse (pattern : String) : Except GlobError Glob :=
  if pattern.isEmpty then .error .empty
  else if Text.startsWith pattern "/" then .error .absolute
  else
    let directoriesOnly := Text.endsWith pattern "/"
    match Path.plainParts pattern with
    | [] => .error (if directoriesOnly then .onlySlash else .nothingLeft)
    | parts => (parts.mapM parsePart).map fun ps => ⟨ps, directoriesOnly⟩

/-- Whether following `way` from a place leads anywhere, and to a directory where it must.  A way
that is too long to follow has no answer. -/
def leads (v : Volume) (root : Place) (toDirectory : Bool) (way : Place) :
    Except LocateError Bool :=
  match v.locateFrom root way with
  | .ok p => .ok (!toDirectory || v.isDirectory p)
  | .error .tooLong => .error .tooLong
  | .error _ => .ok false

def namesAt (v : Volume) (root way : Place) : List String :=
  match v.locate root way with
  | .ok p => v.names p
  | .error _ => []

/-- The ways down from the directory to which `way` leads, the empty one included. -/
def waysDown (v : Volume) (root way : Place) : List Place :=
  match v.locate root way with
  | .ok p => v.directoriesBelow p
  | .error _ => []

/-- The ways that go on from `way` and that the parts accept.  Before the last part, and before a
closing slash, every step must lead to a directory.  A name that no file can have leads nowhere. -/
def selectFrom (v : Volume) (root : Place) (directoriesOnly : Bool) :
    List GlobPart → Place → Except LocateError (List Place)
  | [], way => .ok [way]
  | part :: parts, way =>
    let toDirectory := directoriesOnly || !parts.isEmpty
    match part with
    | .anyDepth => do
      let found ← (waysDown v root way).mapM fun down =>
        selectFrom v root directoriesOnly parts (way ++ down)
      return found.flatten
    | .wild w => do
      let names ← (namesAt v root way).filterM fun name =>
        if w.accepts name then leads v root toDirectory (way ++ [name]) else .ok false
      let found ← names.mapM fun name =>
        selectFrom v root directoriesOnly parts (way ++ [name])
      return found.flatten
    | .exact name => do
      if (Path.nameError? name).isNone && (← leads v root toDirectory (way ++ [name])) then
        selectFrom v root directoriesOnly parts (way ++ [name])
      else return []

def select (v : Volume) (root : Place) (g : Glob) : Except LocateError (List Place) :=
  selectFrom v root g.directoriesOnly g.parts []

end Glob

end RepoAudit

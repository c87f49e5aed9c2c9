import RepoAudit.Glob.Selector

/-! # Finding source files

The source files of a repository, in a fixed order: pattern by pattern, and by path within a
pattern.  Build output and installed packages are left out.

How deep directories may lie, and how long a pattern may be, before a call stack is used up is not modelled:
a search goes down any number of steps.  (Reading a document has such a limit, `Value.maxNesting`.)

* `Discovery.find` – the files below a directory;
* `Discovery.findAt` – the files below the directory that a path means;
* `Discovery.SearchError` – why a search breaks off;
* `Discovery.isIgnored` – what is left out.
-/

namespace RepoAudit.Discovery

def defaultPatterns : List String := ["**/*.ts", "**/*.tsx", "**/*.js", "**/*.jsx"]

def defaultIgnore : List String := ["*.d.ts"]

def skippedDirectories : List String :=
  ["node_modules", "dist", "build", ".next", "coverage", ".git"]

/-- Whether a file is left out: it lies in a skipped directory, or a pattern accepts its path or its
name. -/
def isIgnored (ignore : List String) (way : Place) : Bool :=
  way.dropLast.any skippedDirectories.contains
    || ignore.any fun pattern =>
      (Wildcard.parse pattern).accepts (Text.joinWith '/' way)
        || (Wildcard.parse pattern).accepts (way.getLast?.getD "")

/-- Orders paths name by name, and names by code points. -/
def precedes (a b : Place) : Bool :=
  !decide (b.map Text.codePoints < a.map Text.codePoints)

def leadsToFile (v : Volume) (root way : Place) : Bool :=
  match v.locate root way with
  | .ok p => v.isFile p
  | .error _ => false

/-- The files that one pattern accepts and that are not left out, in order. -/
def byPattern (v : Volume) (root : Place) (ignore : List String) (g : Glob) :
    Except LocateError (List Place) :=
  (g.select v root).map fun ways =>
    (ways.mergeSort precedes).filter fun way => leadsToFile v root way && !isIgnored ignore way

inductive SearchError where
  | pattern (e : GlobError)
  | path (e : LocateError)
  | name (e : Path.NameError)
  deriving Repr, DecidableEq

def addNew (found more : List Place) : List Place :=
  more.foldl (fun acc way => if acc.contains way then acc else acc ++ [way]) found

def addPattern (v : Volume) (root : Place) (ignore : List String) (found : List Place)
    (pattern : String) : Except SearchError (List Place) :=
  match Glob.parse pattern with
  | .error e => .error (.pattern e)
  | .ok g =>
    match byPattern v root ignore g with
    | .error e => .error (.path e)
    | .ok more => .ok (addNew found more)

/-- The files below a directory, each once, as ways down from it.  Nothing is found when the place
is no directory. -/
def find (v : Volume) (root : Place) (patterns ignore : List String) :
    Except SearchError (List Place) :=
  match Glob.leads v [] true root with
  | .error e => .error (.path e)
  | .ok false => .ok []
  | .ok true => patterns.foldlM (addPattern v root ignore) []

/-- The places of the files below the directory that a path means.  Outside the volume nothing is
found. -/
def findAt (v : Volume) (path : String) (patterns ignore : List String) :
    Except SearchError (List Place) :=
  match Path.resolveError? path, Volume.resolve v.home path with
  | some e, _ => .error (.name e)
  | none, some root => (find v root patterns ignore).map fun ways => ways.map (root ++ ·)
  | none, none =>
    match v.locatePath v.home path with
    | .error .tooLong => .error (.path .tooLong)
    | _ => .ok []

def findDefault (v : Volume) (root : Place) : List Place :=
  match find v root defaultPatterns defaultIgnore with
  | .ok files => files
  | .error _ => []

end RepoAudit.Discovery

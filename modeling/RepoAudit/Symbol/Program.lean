import RepoAudit.Path
import RepoAudit.Symbol.Index

/-! # Programs

A program is a set of indexed modules, each known by the path of its file.  Import specifiers that
start with a dot lead from one module to another; all others lead outside.

* `Program.ofSources` – the program of a list of source files;
* `Program.resolveModule` – the module that a specifier denotes.
-/

namespace RepoAudit

structure Program where
  modules : Table String Module := {}
  deriving Inhabited

namespace Program

/-- The program of a list of source files.  A path that is listed twice stands for its last file. -/
def ofSources (sources : List Source) : Program :=
  ⟨Table.ofList (sources.map fun f => (f.path, Module.index f))⟩

def module? (p : Program) (path : String) : Option Module :=
  p.modules.find? path

/-- Extensions that a specifier may carry in place of the one of the file it means. -/
def scriptExtensions : List String := [".js", ".jsx", ".mjs", ".cjs"]

/-- Extensions that are tried for a specifier without one, in this order. -/
def sourceExtensions : List String :=
  [".ts", ".tsx", ".mts", ".cts", ".js", ".jsx", ".mjs", ".cjs"]

def stem (path : String) : String :=
  match scriptExtensions.find? (Text.endsWith path) with
  | some ext => Text.dropEnd path ext.length
  | none => path

/-- The paths that a normalised specifier may stand for, in order of preference: the path itself,
the path with another extension, and the index file of a directory. -/
def candidates (base : String) : List String :=
  base :: sourceExtensions.map (stem base ++ ·)
    ++ sourceExtensions.map (Path.join base "index" ++ ·)

/-- The place that a specifier denotes, seen from the module that imports it. -/
def target (importer specifier : String) : String :=
  Path.normalize (Path.join (Path.directory importer) specifier)

def resolveModule (p : Program) (importer specifier : String) : Option Module :=
  if Text.startsWith specifier "." then
    (candidates (target importer specifier)).findSome? p.module?
  else none

end Program

end RepoAudit

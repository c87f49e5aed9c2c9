import RepoAudit.Path
import RepoAudit.Table
import RepoAudit.Text.Lower

/-! # Languages

The language of a file follows from the extension of its name.  Files that only declare types have
no code to analyse.
-/

namespace RepoAudit.Language

def extensions : List (String × String) :=
  [(".ts", "typescript"), (".mts", "typescript"), (".cts", "typescript"), (".tsx", "tsx"),
   (".js", "javascript"), (".jsx", "javascript"), (".mjs", "javascript"), (".cjs", "javascript")]

/-- The language of a file by its name; nothing when it is not a script. -/
def ofName (name : String) : Option String :=
  if Text.endsWith name ".d.ts" then none
  else Table.findIn (Text.lower (Path.suffix name)) extensions

def ofPath (path : String) : Option String :=
  ofName (Path.name path)

end RepoAudit.Language

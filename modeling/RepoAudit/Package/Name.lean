import RepoAudit.Text.Split

/-! # Package names

The package that an import specifier belongs to, and the package that a package of type declarations
is about.

* `Package.ofSpecifier` – `@scope/name/part` belongs to `@scope/name`, `name/part` to `name`;
* `Package.typed` – `@types/name` is about `name`, `@types/scope__name` about `@scope/name`;
* `Package.isUsed` – whether a declared package is among the imported ones.
-/

namespace RepoAudit.Package

open Text

def ofSpecifier (specifier : String) : String :=
  let parts := splitOn '/' specifier
  if startsWith specifier "@" then joinWith '/' (parts.take 2) else parts.head?.getD ""

def cutAtUnderscores : List Char → Option (List Char × List Char)
  | '_' :: '_' :: rest => some ([], rest)
  | c :: rest => (cutAtUnderscores rest).map fun (before, after) => (c :: before, after)
  | [] => none

/-- The package that `@types/rest` is about. -/
def typed (rest : String) : String :=
  match cutAtUnderscores rest.toList with
  | some (scope, name) => "@" ++ String.ofList scope ++ "/" ++ String.ofList name
  | none => rest

def typesScope : String := "@types/"

/-- Whether a declared package is imported, or is about one that is. -/
def isUsed (package : String) (imported : List String) : Bool :=
  imported.contains package
    || (startsWith package typesScope
      && imported.contains (typed (dropStart package typesScope.length)))

end RepoAudit.Package

import RepoAudit.Proofs.Path
import RepoAudit.Proofs.Symbol.Program

/-! # Where specifiers lead

A specifier is followed from the directory of the module that imports.  The exact path comes before any
guess, so the relative path from one module to another leads to that module, whatever else there is.  A
specifier that denotes a directory leads to its index module, unless the directory is the root: the root
is written as a dot, and no module has a path that starts with one.

* `target_of_follow?` – the path that a specifier stands for;
* `relativeSpecifier` – the specifier of one module, seen from another;
* `resolveModule_relativeSpecifier` – it leads to the module;
* `Program.IsIndexOf` – the index module of a directory;
* `resolveModule_index_iff` – a specifier that denotes a directory leads to its index module exactly if
  the directory is not the root.
-/

namespace RepoAudit

open Text

/-- The specifier of a module, seen from another: the relative path from the directory of the one to the
file of the other. -/
def relativeSpecifier (importer path : String) : String :=
  "./" ++ joinWith '/' (Path.relative (splitOn '/' importer).dropLast (splitOn '/' path))

def blankFile (path : String) : Source where
  path := path
  language := "typescript"
  bytes := []
  tree := ⟨"program", true, none, 0, 0, []⟩

namespace Program

variable {p : Program} {importer specifier : String} {place : List String}

/-- A specifier that starts with a dot and stays in the repository stands for the place that its parts
lead to. -/
theorem target_of_follow? (h : Path.IsNormal importer) (dotted : startsWith specifier "." = true)
    (led : Path.follow? (splitOn '/' importer).dropLast (splitOn '/' specifier) = some place) :
    target importer specifier = if place = [] then "." else joinWith '/' place :=
  Path.normalize_join h dotted led

theorem resolveModule_of_dotted (dotted : startsWith specifier "." = true) :
    p.resolveModule importer specifier = (candidates (target importer specifier)).findSome? p.module? := by
  rw [resolveModule, if_pos dotted]

/-! ## Relative paths -/

theorem startsWith_relativeSpecifier (importer path : String) :
    startsWith (relativeSpecifier importer path) "." = true := by
  simp [relativeSpecifier, startsWith, String.toList_append]

/-- The parts of a relative specifier lead to the file. -/
theorem follow?_relativeSpecifier (importer : String) {path : String} (h : Path.IsNormal path) :
    Path.follow? (splitOn '/' importer).dropLast (splitOn '/' (relativeSpecifier importer path)) =
      some (splitOn '/' path) := by
  have shortest := @Path.follow?_relative (splitOn '/' importer).dropLast _ h.areNames
  have cut : splitOn '/' (relativeSpecifier importer path) = "." ::
      splitOn '/' (joinWith '/' (Path.relative (splitOn '/' importer).dropLast (splitOn '/' path))) :=
    splitOn_append '/' "." _
  rw [cut, Path.follow?, if_pos (.inr rfl)]
  by_cases here : Path.relative (splitOn '/' importer).dropLast (splitOn '/' path) = []
  · -- the file lies where the directory of the importer is, and `./` stays there
    rw [here] at shortest ⊢
    exact shortest
  · rw [splitOn_joinWith here (Path.slash_notMem_relative h.areNames)]
    exact shortest

/-- A module with a normal path is found under its relative path from anywhere in the repository,
whatever other modules there are. -/
theorem resolveModule_relativeSpecifier (sources : List Source) {importer : String} {m : Module}
    (known : (ofSources sources).module? m.path = some m) (normal : Path.IsNormal importer)
    (normal' : Path.IsNormal m.path) :
    (ofSources sources).resolveModule importer (relativeSpecifier importer m.path) = some m := by
  have led := target_of_follow? normal (startsWith_relativeSpecifier importer m.path)
    (follow?_relativeSpecifier importer normal')
  rw [if_neg (splitOn_ne_nil '/' m.path), joinWith_splitOn] at led
  rw [resolveModule_of_dotted (startsWith_relativeSpecifier _ _), led, candidates, List.cons_append,
    List.findSome?_cons, known]

/-- Two directories up and one down, past a file whose path only looks the same up to the extension. -/
theorem resolveModule_relativeSpecifier_upward :
    relativeSpecifier "src/ui/a.ts" "lib/b.js" = "./../../lib/b.js" ∧
    (ofSources (["lib/b.ts", "lib/b.js", "src/ui/a.ts"].map blankFile)).resolveModule
      "src/ui/a.ts" "./../../lib/b.js" = some (Module.index (blankFile "lib/b.js")) := by
  have specifier : relativeSpecifier "src/ui/a.ts" "lib/b.js" = "./../../lib/b.js" := by decide
  have path : (Module.index (blankFile "lib/b.js")).path = "lib/b.js" := Module.index_path _
  have known : (ofSources (["lib/b.ts", "lib/b.js", "src/ui/a.ts"].map blankFile)).module?
      (Module.index (blankFile "lib/b.js")).path = some (Module.index (blankFile "lib/b.js")) := by
    rw [path]
    rfl
  have normal : Path.IsNormal (Module.index (blankFile "lib/b.js")).path := by
    rw [path]
    decide
  have importing : Path.IsNormal "src/ui/a.ts" := by decide
  have led := resolveModule_relativeSpecifier _ known importing normal
  rw [path, specifier] at led
  exact ⟨specifier, led⟩

/-! ## Directories -/

/-- The index module of a directory, where no file has the path of the directory, as it is or with
another extension: of the files called `index` it is the one whose extension comes first. -/
structure IsIndexOf (p : Program) (place : List String) (m : Module) : Prop where
  noFile : p.module? (joinWith '/' place) = none
  noVariant : ∀ ext ∈ sourceExtensions, p.module? (stem (joinWith '/' place) ++ ext) = none
  first : ∃ before ext after, sourceExtensions = before ++ ext :: after ∧
    p.module? (joinWith '/' (place ++ ["index" ++ ext])) = some m ∧
    ∀ earlier ∈ before, p.module? (joinWith '/' (place ++ ["index" ++ earlier])) = none

theorem join_index (names : Path.AreNames place) (inside : place ≠ []) (ext : String) :
    Path.join (joinWith '/' place) "index" ++ ext = joinWith '/' (place ++ ["index" ++ ext]) := by
  rw [Path.join_joinWith names inside (by decide), joinWith_append '/' inside (by simp),
    joinWith_singleton, String.append_assoc]

/-- Below the root the index module is the first candidate that is known. -/
theorem IsIndexOf.findSome?_candidates {m : Module} (h : p.IsIndexOf place m)
    (names : Path.AreNames place) (inside : place ≠ []) :
    (candidates (joinWith '/' place)).findSome? p.module? = some m := by
  obtain ⟨before, ext, after, order, found, earlier⟩ := h.first
  have noVariant : (sourceExtensions.map (stem (joinWith '/' place) ++ ·)).findSome? p.module? = none := by
    simpa using h.noVariant
  have noneBefore : (before.map (Path.join (joinWith '/' place) "index" ++ ·)).findSome? p.module? = none := by
    simpa [join_index names inside] using earlier
  rw [candidates, List.cons_append, List.findSome?_cons, h.noFile]
  dsimp only
  rw [List.findSome?_append, noVariant, Option.none_or, order, List.map_append, List.findSome?_append,
    noneBefore, Option.none_or, List.map_cons, List.findSome?_cons, join_index names inside, found]

/-- No candidate for the root is the path of an index module there. -/
theorem index_notMem_candidates : ∀ ext ∈ sourceExtensions, "index" ++ ext ∉ candidates "." := by
  decide

/-- A specifier that denotes a directory leads to its index module exactly if the directory is not the
root of the repository. -/
theorem resolveModule_index_iff (sources : List Source) {m : Module} (h : Path.IsNormal importer)
    (dotted : startsWith specifier "." = true)
    (led : Path.follow? (splitOn '/' importer).dropLast (splitOn '/' specifier) = some place)
    (index : (ofSources sources).IsIndexOf place m) :
    (ofSources sources).resolveModule importer specifier = some m ↔ place ≠ [] := by
  rw [resolveModule_of_dotted dotted, target_of_follow? h dotted led]
  by_cases root : place = []
  · simp only [root, ↓reduceIte, ne_eq, not_true_eq_false, iff_false]
    intro answer
    obtain ⟨path, candidate, known⟩ := List.exists_of_findSome?_eq_some answer
    obtain ⟨before, ext, after, order, found, -⟩ := index.first
    rw [root, List.nil_append, joinWith_singleton] at found
    -- both paths are the one that the module is filed under
    have grounded := ofSources_grounded sources
    have same := (grounded.path_eq _ _ known).symm.trans (grounded.path_eq _ _ found)
    exact index_notMem_candidates ext (by simp [order]) (same ▸ candidate)
  · have names := Path.areNames_of_follow? (h.areNames.of_subset (List.dropLast_subset _))
      (fun part mem => notMem_of_mem_splitOn mem) led
    simpa [root] using index.findSome?_candidates names root

/-- A directory two levels down with two index files, named in a roundabout way. -/
theorem resolveModule_index_iff_nested :
    Path.follow? (splitOn '/' "src/a.ts").dropLast (splitOn '/' "../src/./util/") = some ["src", "util"] ∧
    (ofSources (["src/a.ts", "src/util/index.js", "src/util/index.tsx"].map blankFile)).resolveModule
      "src/a.ts" "../src/./util/" = some (Module.index (blankFile "src/util/index.tsx")) := by
  have normal : Path.IsNormal "src/a.ts" := by decide
  have led : Path.follow? (splitOn '/' "src/a.ts").dropLast (splitOn '/' "../src/./util/") =
      some ["src", "util"] := by decide
  have index : (ofSources
      (["src/a.ts", "src/util/index.js", "src/util/index.tsx"].map blankFile)).IsIndexOf
      ["src", "util"] (Module.index (blankFile "src/util/index.tsx")) :=
    { noFile := rfl
      noVariant := by decide
      first := ⟨[".ts"], ".tsx", _, rfl, rfl, by decide⟩ }
  exact ⟨led, (resolveModule_index_iff _ normal (by decide) led index).2 (by simp)⟩

/-- The index module of the root is not found. -/
theorem root_index_not_found :
    ¬ ∀ (sources : List Source) (importer specifier : String) (place : List String) (m : Module),
      (∀ f ∈ sources, Path.IsNormal f.path) → (∃ f ∈ sources, f.path = importer) →
      startsWith specifier "." = true →
      Path.follow? (splitOn '/' importer).dropLast (splitOn '/' specifier) = some place →
      (ofSources sources).IsIndexOf place m →
      (ofSources sources).resolveModule importer specifier = some m := by
  intro leads
  have index : (ofSources (["app.ts", "index.ts"].map blankFile)).IsIndexOf []
      (Module.index (blankFile "index.ts")) :=
    { noFile := rfl
      noVariant := by decide
      first := ⟨[], ".ts", _, rfl, rfl, by simp⟩ }
  have found := leads _ "app.ts" "." [] _ (by decide) (by decide) (by decide) (by decide) index
  have missed : (ofSources (["app.ts", "index.ts"].map blankFile)).resolveModule "app.ts" "." =
      none := rfl
  rw [missed] at found
  cases found

end Program

end RepoAudit

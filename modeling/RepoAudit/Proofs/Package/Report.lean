import RepoAudit.Package.Report
import RepoAudit.Proofs.Value.Keys

/-! # Which packages are reported as unused

A manifest declares packages in two sections, of which the second adds to the first and overrides it.  A
declared package is needed when some script imports it; a package of type declarations is also needed when
some script imports the package that it is about.  All others are reported, each once and in the order in
which they are declared.

* `Package.typed_scoped`, `Package.typed_plain` – the package that a package of types is about;
* `Package.isUsed_iff`, `Package.mem_used_iff` – needed packages, by what scripts import;
* `Manifest.packagesOf_eq` – the packages of two sections, in order and with their versions;
* `Package.report_unused` – the report lists exactly the declared packages that are not needed.
-/

namespace RepoAudit

open Text

namespace Package

/-! ## Packages of type declarations -/

theorem cutAtUnderscores_of_whole {cs : List Char} (h : holdsChars ['_', '_'] cs = false) :
    cutAtUnderscores cs = none := by
  fun_induction cutAtUnderscores cs with
  | case1 rest => simp [holdsChars] at h
  | case2 c rest _ ih =>
    simp only [holdsChars, Bool.or_eq_false_iff] at h
    simp [ih h.2]
  | case3 => rfl

/-- The first pair of underscores is found behind a text that holds none and does not end in one. -/
theorem cutAtUnderscores_append {cs : List Char} (whole : holdsChars ['_', '_'] cs = false)
    (ends : ['_'].isSuffixOf cs = false) (rest : List Char) :
    cutAtUnderscores (cs ++ '_' :: '_' :: rest) = some (cs, rest) := by
  induction cs with
  | nil => simp [cutAtUnderscores]
  | cons c cs ih =>
    have onward : holdsChars ['_', '_'] cs = false := by
      simp only [holdsChars, Bool.or_eq_false_iff] at whole
      exact whole.2
    cases cs with
    | nil =>
      have other : c ≠ '_' := by
        rintro rfl
        exact absurd ends (by decide)
      simp [cutAtUnderscores, other]
    | cons d cs =>
      -- no pair starts at the front, so the cut is that of the rest
      have apart : ¬ (c = '_' ∧ d = '_') := by
        rintro ⟨rfl, rfl⟩
        simp [holdsChars] at whole
      have endsAlike : ['_'].isSuffixOf (d :: cs) = false := by
        rw [← Bool.not_eq_true, List.isSuffixOf_iff_suffix] at ends ⊢
        exact fun suffix => ends (suffix.trans (List.suffix_cons c _))
      have found := ih onward endsAlike
      simp only [List.cons_append] at found ⊢
      rw [cutAtUnderscores, found]
      · rfl
      · rintro _ rfl same
        cases same
        exact apart ⟨rfl, rfl⟩

/-- A package of types whose name holds a pair of underscores is about a package with a scope. -/
theorem typed_scoped {scope : String} (whole : holds scope "__" = false)
    (ends : endsWith scope "_" = false) (name : String) :
    typed (scope ++ "__" ++ name) = "@" ++ scope ++ "/" ++ name := by
  have cut : cutAtUnderscores (scope ++ "__" ++ name).toList = some (scope.toList, name.toList) := by
    rw [String.toList_append, String.toList_append, List.append_assoc]
    exact cutAtUnderscores_append whole ends name.toList
  simp only [typed, cut, String.ofList_toList]

/-- Any other package of types is about the package of the same name. -/
theorem typed_plain {name : String} (whole : holds name "__" = false) : typed name = name := by
  simp only [typed, cutAtUnderscores_of_whole whole]

/-! ## Needed packages -/

theorem isUsed_iff {package : String} {imported : List String} :
    isUsed package imported = true ↔
      package ∈ imported ∨ ∃ rest, package = typesScope ++ rest ∧ typed rest ∈ imported := by
  have start : ∀ rest, startsWith (typesScope ++ rest) typesScope = true := by
    intro rest
    rw [startsWith, String.toList_append, List.isPrefixOf_iff_prefix]
    exact List.prefix_append _ _
  have behind : ∀ rest, dropStart (typesScope ++ rest) typesScope.length = rest := by
    intro rest
    rw [dropStart, String.toList_append, ← String.length_toList, List.drop_left, String.ofList_toList]
  simp only [isUsed, Bool.or_eq_true, Bool.and_eq_true, List.contains_iff_mem]
  refine or_congr_right ⟨?_, ?_⟩
  · rintro ⟨starts, mem⟩
    rw [startsWith, List.isPrefixOf_iff_prefix] at starts
    obtain ⟨rest, same⟩ := starts
    obtain rfl : package = typesScope ++ String.ofList rest := by
      rw [← String.toList_inj, String.toList_append, String.toList_ofList, same]
    rw [behind] at mem
    exact ⟨_, rfl, mem⟩
  · rintro ⟨rest, rfl, mem⟩
    exact ⟨start rest, by rwa [behind]⟩

def Imported (v : Volume) (root : Place) (package : String) : Prop :=
  ∃ files, Discovery.find v root Discovery.defaultPatterns Discovery.defaultIgnore = .ok files ∧
    ∃ way ∈ files, ∃ place f, v.locate root way = .ok place ∧ v.fileAt? place = some f ∧
      package ∈ importedPackages (scriptText f.bytes)

/-- A package is not needed: no script imports it, nor the package that it has the types of. -/
def Unneeded (v : Volume) (root : Place) (package : String) : Prop :=
  ¬ Imported v root package ∧
    ∀ rest, package = typesScope ++ rest → ¬ Imported v root (typed rest)

variable {v : Volume} {root : Place}

theorem mem_used_iff {package : String} : package ∈ used v root ↔ Imported v root package := by
  have texts : ∀ way f, (v.locate root way).toOption.bind (fun place =>
      (v.fileAt? place).map fun f => scriptText f.bytes) = some f ↔
        ∃ place file, v.locate root way = .ok place ∧ v.fileAt? place = some file ∧
          scriptText file.bytes = f := by
    intro way f
    cases v.locate root way <;> simp [Except.toOption]
  simp only [used, List.mem_eraseDups, List.mem_flatMap, List.mem_filterMap, texts, Imported]
  cases found : Discovery.find v root Discovery.defaultPatterns Discovery.defaultIgnore with
  | error e => simp [Discovery.findDefault, found]
  | ok files =>
    simp only [Discovery.findDefault, found, Except.ok.injEq, exists_eq_left']
    constructor
    · rintro ⟨_, ⟨way, mem, place, file, located, there, rfl⟩, imports⟩
      exact ⟨way, mem, place, file, located, there, imports⟩
    · rintro ⟨way, mem, place, file, located, there, imports⟩
      exact ⟨_, ⟨way, mem, place, file, located, there, rfl⟩, imports⟩

theorem isUsed_used_iff {package : String} :
    isUsed package (used v root) = false ↔ Unneeded v root package := by
  rw [← Bool.not_eq_true, isUsed_iff, not_or]
  simp only [mem_used_iff, Unneeded, not_exists, not_and]

end Package

/-! ## Two sections -/

namespace Manifest

/-- The entries of a section of a manifest: those of an object, and none when there is no section. -/
def IsSection (fields : List (String × Value)) (key : String) (entries : List (String × Value)) : Prop :=
  Value.lookup key fields = some (.object entries) ∨
    (Value.lookup key fields = none ∨ Value.lookup key fields = some .null) ∧ entries = []

/-- The names of the packages that two sections declare: those of the first, then the new ones of the
second. -/
def namesIn (first second : List (String × Value)) : List String :=
  first.map (·.1) ++ (second.map (·.1)).filter fun name => name ∉ first.map (·.1)

/-- The version of a package: that of the second section if it is there, else that of the first. -/
def versionIn (first second : List (String × Value)) (name : String) : Value :=
  ((Value.lookup name second).or (Value.lookup name first)).getD .null

variable {fields first second : List (String × Value)} {key : String}

theorem entriesOf_of_isSection (h : IsSection fields key first) :
    entriesOf ((Value.object fields).getD key) = .ok (first.map fun f => (.text f.1, f.2)) := by
  rcases h with stored | ⟨absent | null, rfl⟩
  · simp only [Value.getD, Value.field?, stored, Option.getD_some, entriesOf, Value.truthy]
    cases first with
    | nil => rfl
    | cons f rest => rfl
  · simp [Value.getD, Value.field?, absent, entriesOf, Value.truthy]
  · simp [Value.getD, Value.field?, null, entriesOf, Value.truthy]

theorem mapM_named (entries : List (String × Value)) :
    (entries.map fun f => (Value.text f.1, f.2)).mapM named = .ok entries := by
  induction entries with
  | nil => rfl
  | cons f rest ih =>
    rw [List.map_cons, List.mapM_cons, ih]
    rfl

theorem nodup_of_isSection (once : (Value.object fields).KeyedOnce) (h : IsSection fields key first) :
    (first.map (·.1)).Nodup := by
  rcases h with stored | ⟨-, rfl⟩
  · exact (once.of_lookup stored).nodup
  · exact List.nodup_nil

theorem nodup_namesIn (once : (first.map (·.1)).Nodup) (once' : (second.map (·.1)).Nodup) :
    (namesIn first second).Nodup := by
  refine List.nodup_append.2 ⟨once, once'.filter _, ?_⟩
  rintro name mem _ mem' rfl
  simp only [List.mem_filter, decide_eq_true_eq] at mem'
  exact mem'.2 mem

/-- Two sections go into one table: its keys are the names, and what it holds the versions. -/
theorem collectFields_append (once : (first.map (·.1)).Nodup) (once' : (second.map (·.1)).Nodup) :
    Value.collectFields (first ++ second) =
      (namesIn first second).map fun name => (name, versionIn first second name) := by
  have filled : Table.ofList (first ++ second) =
      second.foldl (fun t e => t.insert e.1 e.2) (Table.ofList first) :=
    List.foldl_append
  have firstKeys : (Table.ofList first).keys = first.map (·.1) := by
    rw [Table.ofList, Table.keys_foldl_insert once]
    simp [Table.keys, Table.empty]
  -- a package of the second section keeps its place in the first, and gets its new version
  have keys : (Table.ofList (first ++ second)).keys = namesIn first second := by
    rw [filled, Table.keys_foldl_insert once', firstKeys, namesIn]
  have values : ∀ name version, (Table.ofList (first ++ second)).find? name = some version →
      versionIn first second name = version := by
    intro name version found
    rw [filled, Table.find?_foldl_insert, Table.find?_reverse_eq_findIn once', Table.find?_ofList,
      Table.find?_reverse_eq_findIn once] at found
    rw [versionIn, Value.lookup_eq_findIn, Value.lookup_eq_findIn, found, Option.getD_some]
  rw [Value.collectFields_eq, Table.entries_eq_map_keys (Table.nodup_keys_ofList _) values, keys]

theorem packagesOf_eq (once : (Value.object fields).KeyedOnce)
    (isFirst : IsSection fields "dependencies" first)
    (isSecond : IsSection fields "devDependencies" second) :
    packagesOf (.object fields) =
      .ok ((namesIn first second).map fun name => (name, versionIn first second name)) := by
  have named : ([first.map fun f => (Value.text f.1, f.2),
      second.map fun f => (Value.text f.1, f.2)].flatten).mapM named = .ok (first ++ second) := by
    rw [← mapM_named (first ++ second)]
    simp
  rw [← collectFields_append (nodup_of_isSection once isFirst) (nodup_of_isSection once isSecond)]
  simp only [packagesOf, sections, List.mapM_cons, List.mapM_nil, entriesOf_of_isSection isFirst,
    entriesOf_of_isSection isSecond, bind, Except.bind, pure, Except.pure, named]

/-- The packages that a repository declares, by the sections of its manifest. -/
theorem declared_eq {v : Volume} {root : Place} {file : File} {text : String}
    (there : v.fileAt? (root ++ [fileName]) = some file)
    (decoded : Utf8.decode? file.bytes = some text) (parsed : Value.parse text = .ok (.object fields))
    (isFirst : IsSection fields "dependencies" first)
    (isSecond : IsSection fields "devDependencies" second) :
    declared v root =
      .ok ((namesIn first second).map fun name => (name, versionIn first second name)) := by
  simp only [declared, there, parse, decoded, parsed]
  exact packagesOf_eq (Value.keyedOnce_of_parse parsed) isFirst isSecond

end Manifest

/-! ## The report -/

namespace Package

variable {v : Volume} {root : Place}

theorem reason_of_outdated {outcome : ManagerOutcome} {later : List DependencyFinding}
    (h : outdated outcome = .ok later) : ∀ d ∈ later, d.reason = outdatedReason := by
  have listed : ∀ (fields : List (String × Value)) (d : DependencyFinding),
      d ∈ fields.filterMap outdatedFinding? → d.reason = outdatedReason := by
    intro fields d mem
    obtain ⟨entry, -, found⟩ := List.mem_filterMap.1 mem
    unfold outdatedFinding? at found
    split at found
    · cases found
      rfl
    · cases found
  unfold outdated at h
  split at h
  · cases h
    simp
  · cases h
    simp
  · cases h
    simp
  · dsimp only at h
    split at h
    · cases h
      simp
    · split at h
      · cases h
        simp
      · cases h
      · cases h
        exact listed _
      · cases h

theorem unused_map (names imported : List String) (version : String → Value) :
    unused (names.map fun name => (name, version name)) imported =
      (names.filter fun name => !isUsed name imported).map fun name =>
        { package := name, reason := unusedReason, current := version name } := by
  rw [unused, List.filter_map, List.map_map]
  rfl

/-- The findings about unused packages come first, and behind them only what the package manager says. -/
theorem report_cases {outcome : ManagerOutcome} {findings : List DependencyFinding}
    {declared : List (String × Value)} (h : Manifest.declared v root = .ok declared)
    (returned : report v root outcome = .ok findings) :
    ∃ later, findings = unused declared (used v root) ++ later ∧
      ∀ d ∈ later, d.reason = outdatedReason := by
  simp only [report, h, bind, Except.bind, pure, Except.pure] at returned
  split at returned
  · rename_i none_declared
    cases returned
    rw [List.isEmpty_iff] at none_declared
    exact ⟨[], by simp [none_declared, unused], by simp⟩
  · cases printed : outdated outcome with
    | error e => simp [printed] at returned
    | ok later =>
      simp only [printed, Except.ok.injEq] at returned
      exact ⟨later, returned.symm, reason_of_outdated printed⟩

/-- Whenever the packages of a repository are reported on, the findings about unused packages come
before all others.  They are one for each declared package that is not needed, in the order of first
declaration and with the version of the last section that declares the package. -/
theorem report_unused {file : File} {text : String} {fields first second : List (String × Value)}
    {outcome : ManagerOutcome} {findings : List DependencyFinding}
    (there : v.fileAt? (root ++ [Manifest.fileName]) = some file)
    (decoded : Utf8.decode? file.bytes = some text)
    (parsed : Value.parse text = .ok (.object fields))
    (isFirst : Manifest.IsSection fields "dependencies" first)
    (isSecond : Manifest.IsSection fields "devDependencies" second)
    (returned : report v root outcome = .ok findings) :
    (∃ (names : List String) (later : List DependencyFinding),
      findings = names.map (fun name =>
        { package := name, reason := unusedReason
          current := Manifest.versionIn first second name }) ++ later ∧
      (∀ d ∈ later, d.reason = outdatedReason) ∧
      names.Nodup ∧ names.Sublist (Manifest.namesIn first second) ∧
      ∀ name, name ∈ names ↔ name ∈ Manifest.namesIn first second ∧ Unneeded v root name) ∧
    (∀ scope name, holds scope "__" = false → endsWith scope "_" = false →
      typed (scope ++ "__" ++ name) = "@" ++ scope ++ "/" ++ name) ∧
    ∀ name, holds name "__" = false → typed name = name := by
  have once := Value.keyedOnce_of_parse parsed
  have declared := Manifest.declared_eq there decoded parsed isFirst isSecond
  obtain ⟨later, same, outdated⟩ := report_cases declared returned
  refine ⟨⟨(Manifest.namesIn first second).filter (fun name => !isUsed name (used v root)), later,
    ?_, outdated, ?_, List.filter_sublist, ?_⟩, ?_, ?_⟩
  · rw [same, unused_map]
  · exact (Manifest.nodup_namesIn (Manifest.nodup_of_isSection once isFirst)
      (Manifest.nodup_of_isSection once isSecond)).filter _
  · intro name
    rw [List.mem_filter, Bool.not_eq_true', isUsed_used_iff]
  · intro scope name whole ends
    exact typed_scoped whole ends name
  · intro name whole
    exact typed_plain whole

/-- A manifest whose sections declare one package twice, and the types of a package with a scope. -/
def typesManifest : String :=
  "\x7b\"dependencies\":\x7b\"a\":\"1\",\"@types/b__c\":\"2\"\x7d,\"devDependencies\":\x7b\"d\":null,\"a\":\"3\"\x7d\x7d"

/-- A repository with this manifest and a script that imports the package with the scope. -/
def typesRepository : Volume where
  base := "/w"
  home := []
  entries := .ofList [([Manifest.fileName], .file { bytes := Utf8.encode typesManifest }),
    (["src", "x.ts"], .file { bytes := Utf8.encode "import '@b/c/sub';" })]

theorem parse_typesManifest :
    Value.parse typesManifest = .ok (.object
      [("dependencies", .object [("a", .text "1"), ("@types/b__c", .text "2")]),
       ("devDependencies", .object [("d", .null), ("a", .text "3")])]) := by
  simp [typesManifest, Value.parse, Value.parseWithin, Value.readValue, Value.readFields, Value.readText,
    Value.skipSpace, Value.isSpace, Value.dropWord?, Value.maxNesting, Value.collectFields,
    Value.setField, bind, Except.bind, pure, Except.pure]

/-- The types are needed with the package that they are about; the other packages are reported, the
one that is declared twice with its second version. -/
theorem report_unused_typesRepository :
    ∃ (findings : List DependencyFinding) (names : List String) (later : List DependencyFinding),
      report typesRepository [] .missing = .ok findings ∧
      findings = names.map (fun name =>
        { package := name, reason := unusedReason
          current := Manifest.versionIn [("a", .text "1"), ("@types/b__c", .text "2")]
            [("d", .null), ("a", .text "3")] name }) ++ later ∧
      names.Sublist ["a", "@types/b__c", "d"] ∧ "a" ∈ names ∧ "d" ∈ names ∧ "@types/b__c" ∉ names := by
  have there : typesRepository.fileAt? ([] ++ [Manifest.fileName]) =
      some { bytes := Utf8.encode typesManifest } := rfl
  have decoded : Utf8.decode? (Utf8.encode typesManifest) = some typesManifest := by decide +kernel
  have imports : used typesRepository [] = ["@b/c"] := by decide +kernel
  have declared := Manifest.declared_eq there decoded parse_typesManifest (.inl rfl) (.inl rfl)
  have returned : ∃ findings, report typesRepository [] .missing = .ok findings := by
    rw [report, declared]
    exact ⟨_, rfl⟩
  obtain ⟨findings, returned⟩ := returned
  obtain ⟨⟨names, later, same, -, -, order, mem⟩, -⟩ :=
    report_unused there decoded parse_typesManifest (.inl rfl) (.inl rfl) returned
  simp only [← isUsed_used_iff, imports] at mem
  exact ⟨findings, names, later, returned, same, order, (mem "a").2 (by decide), (mem "d").2 (by decide),
    mt (mem "@types/b__c").1 (by decide)⟩

end Package

end RepoAudit

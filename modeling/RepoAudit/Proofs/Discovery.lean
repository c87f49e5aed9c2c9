import RepoAudit.Language
import RepoAudit.Proofs.Glob

/-! # Which files a search finds

A search by the default patterns goes by the end of a name, the language of a file by its extension.
The two agree on the extensions that the patterns spell out; a script with another extension, or with
its extension in capitals, has a language and is not found.

* `Discovery.isIgnored_default` – what the default patterns leave out;
* `Discovery.suffix_searched` – a name ends in an extension when it has it, or is nothing else;
* `Discovery.mem_find_default` – which files are found, by their language and their extension.
-/

namespace RepoAudit

namespace Language

theorem ofPath_absolute {v : Volume} {p : Place} {name : String} (h : Path.IsName name) :
    ofPath (v.absolute (p ++ [name])) = ofName name := by
  rw [ofPath, Volume.absolute, ← List.cons_append,
    Path.name_joinWith h.noSlash h.nonempty h.noDot]

theorem ofName_ne_none_iff {name : String} :
    ofName name ≠ none ↔ Text.endsWith name ".d.ts" = false ∧
      Table.findIn (Text.lower (Path.suffix name)) extensions ≠ none := by
  unfold ofName
  split <;> simp_all

end Language

namespace Discovery

def searchedExtensions : List String := [".ts", ".tsx", ".js", ".jsx"]

def endingIn (tail : String) : Wildcard :=
  .many :: (tail.toList.map Char.toNat).map .point

theorem defaultPatterns_eq : defaultPatterns = searchedExtensions.map ("**/*" ++ ·) := by
  decide

theorem parse_anywhere : ∀ ext ∈ searchedExtensions,
    Glob.parse ("**/*" ++ ext) = .ok ⟨[.anyDepth, .wild (endingIn ext)], false⟩ := by
  decide

theorem isPlain_searched : ∀ ext ∈ searchedExtensions, ∀ c ∈ ext.toList, Text.IsPlain c := by
  have plain : ∀ ext ∈ searchedExtensions, ext.toList.all (fun c => Text.IsPlain c) = true := by decide
  exact fun ext h => List.all_iff_forall_prop.1 (plain ext h)

/-- Every extension that is searched for has a language. -/
theorem findIn_searched : ∀ ext ∈ searchedExtensions,
    Table.findIn (Text.lower ext) Language.extensions ≠ none := by
  decide

theorem accepts_endingIn {tail : String} (h : ∀ c ∈ tail.toList, Text.IsPlain c) {name : String} :
    (endingIn tail).accepts name = true ↔ tail.toList <:+ name.toList :=
  Wildcard.accepts_many_points h

/-- A name ends in a searched extension when that is its extension, or when it is nothing else. -/
theorem suffix_searched {ext : String} (h : ext ∈ searchedExtensions) {name : String} :
    ext.toList <:+ name.toList ↔ Path.suffix name = ext ∨ name = ext := by
  have dotted : ∀ ext ∈ searchedExtensions, ext.toList.tail ≠ [] ∧ '.' ∉ ext.toList.tail ∧
      '.' :: ext.toList.tail = ext.toList := by
    decide
  obtain ⟨someLetter, noDot, spelled⟩ := dotted ext h
  have extension := Path.suffix_eq_iff (s := name) someLetter noDot
  rw [spelled, String.ofList_toList] at extension
  rw [extension]
  by_cases same : name = ext <;> simp [same]

/-- By default a file is left out for a directory on the way to it, or because it only declares
types. -/
theorem isIgnored_default {parents : Place} {name : String} :
    isIgnored defaultIgnore (parents ++ [name]) = true ↔
      (∃ d ∈ parents, d ∈ skippedDirectories) ∨ Text.endsWith name ".d.ts" = true := by
  have plain : ∀ c ∈ ".d.ts".toList, Text.IsPlain c :=
    List.all_iff_forall_prop.1 (by decide)
  have read : Wildcard.parse "*.d.ts" = endingIn ".d.ts" := by decide
  have path : ".d.ts".toList <:+ (Text.joinWith '/' (parents ++ [name])).toList ↔
      ".d.ts".toList <:+ name.toList := Text.suffix_joinWith_iff (by decide)
  simp only [isIgnored, defaultIgnore, List.any_cons, List.any_nil, Bool.or_false, read,
    Bool.or_eq_true, List.any_eq_true, List.contains_iff_mem, accepts_endingIn plain, path,
    List.dropLast_concat, List.getLast?_concat, Option.getD_some, or_self, Text.endsWith,
    List.isSuffixOf_iff_suffix]

variable {v : Volume} {root : Place}

/-- The pattern of a searched extension selects what is below a directory by the end of its name. -/
theorem selection_searched (sound : v.Sound) (directory : v.isDirectory root = true) {ext : String}
    (h : ext ∈ searchedExtensions) :
    ∃ ways, Selection v root ("**/*" ++ ext) ways ∧
      ∀ parents name, v.occupied (root ++ (parents ++ [name])) = true →
        (parents ++ [name] ∈ ways ↔ ext.toList <:+ name.toList) := by
  refine ⟨_, ⟨_, parse_anywhere ext h, Glob.select_anywhere sound _ directory⟩, ?_⟩
  intro parents name occ
  rw [Glob.mem_select_anywhere directory occ, accepts_endingIn (isPlain_searched ext h)]

/-- A search by the default patterns comes to an end, and finds a file by the end of its name. -/
theorem find_default (sound : v.Sound) (directory : v.isDirectory root = true) :
    ∃ files, find v root defaultPatterns defaultIgnore = .ok files ∧
      ∀ parents name, v.isFile (root ++ (parents ++ [name])) = true →
        (parents ++ [name] ∈ files ↔ (∃ ext ∈ searchedExtensions, ext.toList <:+ name.toList) ∧
          isIgnored defaultIgnore (parents ++ [name]) = false) := by
  have selections : ∀ pattern ∈ defaultPatterns, ∃ ways, Selection v root pattern ways := by
    rw [defaultPatterns_eq, List.forall_mem_map]
    intro ext searched
    obtain ⟨ways, selection, -⟩ := selection_searched sound directory searched
    exact ⟨ways, selection⟩
  obtain ⟨files, done, mem⟩ := find_eq_ok sound directory defaultIgnore selections
  refine ⟨files, done, fun parents name file => ?_⟩
  have occ : v.occupied (root ++ (parents ++ [name])) = true := by simp [Volume.occupied, file]
  -- whether a pattern selects a file is seen from the end of its name
  have byEnd : ∀ ext ∈ searchedExtensions,
      (∃ ways, Selection v root ("**/*" ++ ext) ways ∧ parents ++ [name] ∈ ways) ↔
        ext.toList <:+ name.toList := by
    intro ext searched
    obtain ⟨ways, selection, ends⟩ := selection_searched sound directory searched
    rw [← ends parents name occ]
    constructor
    · rintro ⟨others, other, inside⟩
      rwa [selection.unique other]
    · exact fun inside => ⟨ways, selection, inside⟩
  rw [mem, defaultPatterns_eq]
  simp only [List.mem_map, exists_exists_and_eq_and, leadsToFile_of_isFile sound file, true_and]
  exact and_congr_left fun _ => exists_congr fun ext =>
    and_congr_right fun searched => byEnd ext searched

/-- The end of a name and the language of a file agree on the searched extensions; and a name that is
nothing but an extension has no language. -/
theorem ends_searched_iff {name : String} :
    ((∃ ext ∈ searchedExtensions, ext.toList <:+ name.toList) ∧ Text.endsWith name ".d.ts" = false) ↔
      (Language.ofName name ≠ none ∧ Path.suffix name ∈ searchedExtensions) ∨
        name ∈ searchedExtensions := by
  have bare : ∀ ext ∈ searchedExtensions, Text.endsWith ext ".d.ts" = false := by decide
  constructor
  · rintro ⟨⟨ext, searched, ends⟩, code⟩
    rcases (suffix_searched searched).1 ends with extension | rfl
    · rw [Language.ofName_ne_none_iff, extension]
      exact .inl ⟨⟨code, findIn_searched ext searched⟩, searched⟩
    · exact .inr searched
  · rintro (⟨known, searched⟩ | searched)
    · exact ⟨⟨_, searched, (suffix_searched searched).2 (.inl rfl)⟩,
        (Language.ofName_ne_none_iff.1 known).1⟩
    · exact ⟨⟨name, searched, List.suffix_refl _⟩, bare name searched⟩

/-- A search by the default patterns comes to an end.  Outside the skipped directories it finds the
files with a language whose extension is one of those searched for, in small letters, and besides the
files that are named like an extension. -/
theorem mem_find_default (sound : v.Sound) (directory : v.isDirectory root = true) :
    ∃ files, find v root defaultPatterns defaultIgnore = .ok files ∧
      ∀ parents name, v.isFile (root ++ (parents ++ [name])) = true →
        (∀ d ∈ parents, d ∉ skippedDirectories) →
          (parents ++ [name] ∈ files ↔
            (Language.ofPath (v.absolute (root ++ (parents ++ [name]))) ≠ none ∧
              Path.suffix name ∈ searchedExtensions) ∨ name ∈ searchedExtensions) := by
  obtain ⟨files, done, mem⟩ := find_default sound directory
  refine ⟨files, done, fun parents name file kept => ?_⟩
  have occ : v.occupied (root ++ (parents ++ [name])) = true := by simp [Volume.occupied, file]
  have isName : Path.IsName name := sound.isName_of_occupied occ name (by simp)
  have ignored : isIgnored defaultIgnore (parents ++ [name]) = false ↔
      Text.endsWith name ".d.ts" = false := by
    rw [← Bool.not_eq_true, ← Bool.not_eq_true, isIgnored_default]
    refine not_congr (or_iff_right ?_)
    rintro ⟨d, inside, skipped⟩
    exact kept d inside skipped
  rw [mem parents name file, ignored, ends_searched_iff, ← List.append_assoc,
    Language.ofPath_absolute isName]

/-- A volume with a script in a directory, a script as a module, one with its extension in capitals, a
file of types, and a file that is named like an extension. -/
def mixedVolume : Volume where
  base := "/w"
  home := []
  entries := .ofList [(["src", "app.ts"], .file ⟨[], none⟩), (["lib.mjs"], .file ⟨[], none⟩),
    (["MAIN.TS"], .file ⟨[], none⟩), (["types.d.ts"], .file ⟨[], none⟩), ([".js"], .file ⟨[], none⟩)]

theorem mixedVolume_sound : mixedVolume.Sound :=
  ⟨by decide, by decide, by decide⟩

theorem mem_find_default_mixedVolume :
    mixedVolume.Sound ∧ mixedVolume.isDirectory [] = true ∧
      ∃ files, find mixedVolume [] defaultPatterns defaultIgnore = .ok files ∧
        ["src", "app.ts"] ∈ files ∧ [".js"] ∈ files ∧
          ["lib.mjs"] ∉ files ∧ ["MAIN.TS"] ∉ files ∧ ["types.d.ts"] ∉ files := by
  have directory : mixedVolume.isDirectory [] = true := by decide
  obtain ⟨files, done, mem⟩ := mem_find_default mixedVolume_sound directory
  refine ⟨mixedVolume_sound, directory, files, done, ?_, ?_, ?_, ?_, ?_⟩
  · exact (mem ["src"] "app.ts" (by decide) (by decide)).2 (by decide)
  · exact (mem [] ".js" (by decide) (by decide)).2 (by decide)
  · exact mt (mem [] "lib.mjs" (by decide) (by decide)).1 (by decide)
  · exact mt (mem [] "MAIN.TS" (by decide) (by decide)).1 (by decide)
  · exact mt (mem [] "types.d.ts" (by decide) (by decide)).1 (by decide)

/-- Having a language is not enough to be found: the patterns leave module scripts out. -/
theorem find_default_misses_language :
    ¬ ∀ (v : Volume) (root : Place) (files : List Place), v.Sound → v.isDirectory root = true →
      find v root defaultPatterns defaultIgnore = .ok files →
        ∀ parents name, v.isFile (root ++ (parents ++ [name])) = true →
          (∀ d ∈ parents, d ∉ skippedDirectories) →
            (parents ++ [name] ∈ files ↔
              Language.ofPath (v.absolute (root ++ (parents ++ [name]))) ≠ none) := by
  intro agree
  obtain ⟨files, done, mem⟩ := find_default mixedVolume_sound (show mixedVolume.isDirectory [] = true by decide)
  have found : [] ++ ["lib.mjs"] ∈ files :=
    (agree mixedVolume [] files mixedVolume_sound (by decide) done [] "lib.mjs" (by decide)
      (by decide)).2 (by decide)
  exact absurd ((mem [] "lib.mjs" (by decide)).1 found).1 (by decide)

end Discovery

end RepoAudit

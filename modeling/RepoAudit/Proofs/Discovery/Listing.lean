import Mathlib.Data.List.Lex
import RepoAudit.Proofs.Glob
import RepoAudit.Proofs.Glob.Describe

/-! # What a search lists, and in which order

A search goes through its patterns one by one.  Each adds the files that it accepts and that are not yet
there, sorted by their names.  So the whole list has every file once, by the first pattern that accepts it
and by names within a pattern.  A pattern may go up, and then it finds files outside the directory that is
searched, or one file by several ways; a pattern without a step up finds exactly the files below.

* `Discovery.Excluded` – the files that are left out;
* `Discovery.Before` – the order of a list;
* `Discovery.IsListing` – what a search should find;
* `Discovery.IsListing.add` – one more pattern;
* `Discovery.find_isListing` – all patterns.
-/

namespace RepoAudit

namespace Discovery

variable {v : Volume} {root : Place} {globs : List Glob} {ignore : List String}

/-! ## What is left out, and what comes first -/

/-- A file is left out for a directory that it lies in, or for a pattern that its path or its name
matches. -/
def Excluded (ignore : List String) (way : Place) : Prop :=
  (∃ directory ∈ way.dropLast, directory ∈ skippedDirectories) ∨
    ∃ pattern ∈ ignore,
      (Wildcard.parse pattern).acceptsPoints (Text.codePoints (Text.joinWith '/' way)) = true ∨
        (Wildcard.parse pattern).acceptsPoints (Text.codePoints (way.getLast?.getD "")) = true

theorem isIgnored_iff {way : Place} : isIgnored ignore way = true ↔ Excluded ignore way := by
  simp [isIgnored, Excluded, Wildcard.accepts_eq_acceptsPoints]

/-- The number of the first pattern that accepts a way to a file. -/
def earliest (globs : List Glob) (way : Place) : Nat :=
  globs.findIdx (·.acceptsFile way)

/-- A way comes before another: an earlier pattern accepts it, or the same one does and its names come
first. -/
def Before (globs : List Glob) (a b : Place) : Prop :=
  earliest globs a < earliest globs b ∨
    earliest globs a = earliest globs b ∧ a.map Text.codePoints < b.map Text.codePoints

theorem earliest_append_of_accepted {way : Place} (h : ∃ g ∈ globs, g.acceptsFile way = true)
    (more : List Glob) :
    earliest (globs ++ more) way = earliest globs way ∧ earliest globs way < globs.length := by
  have inside : earliest globs way < globs.length := List.findIdx_lt_length_of_exists h
  refine ⟨?_, inside⟩
  rw [earliest, List.findIdx_append]
  exact if_pos inside

theorem earliest_concat {way : Place} (h : ∀ g ∈ globs, g.acceptsFile way = false) {g : Glob}
    (accepted : g.acceptsFile way = true) : earliest (globs ++ [g]) way = globs.length := by
  have none : globs.findIdx (·.acceptsFile way) = globs.length := List.findIdx_eq_length.2 h
  simp [earliest, List.findIdx_append, none, accepted]

theorem Before.ne {a b : Place} (h : Before globs a b) : a ≠ b := by
  rintro rfl
  rcases h with earlier | ⟨-, less⟩
  · exact Nat.lt_irrefl _ earlier
  · exact List.lt_irrefl _ less

/-! ## One pattern -/

/-- What a search should find: the ways to files that some pattern accepts and nothing excludes, each
once, and in order. -/
structure IsListing (v : Volume) (root : Place) (globs : List Glob) (ignore : List String)
    (files : List Place) : Prop where
  nodup : files.Nodup
  ordered : files.Pairwise (Before globs)
  mem_iff : ∀ way, way ∈ files ↔
    leadsToFile v root way = true ∧ (∃ g ∈ globs, g.acceptsFile way = true) ∧ ¬ Excluded ignore way

theorem leadsToFile_iff {way : Place} :
    leadsToFile v root way = true ↔ ∃ place, v.locate root way = .ok place ∧ v.isFile place = true := by
  unfold leadsToFile
  split
  · rename_i led
    simp [led]
  · rename_i lost
    simp [lost]

/-- What is added comes behind what is there. -/
theorem addNew_eq (found more : List Place) : ∃ fresh, addNew found more = found ++ fresh ∧
    fresh.Sublist more ∧ fresh.Nodup ∧ ∀ way ∈ fresh, way ∉ found := by
  induction more generalizing found with
  | nil => exact ⟨[], by simp [addNew], by simp, by simp, by simp⟩
  | cons next rest ih =>
    by_cases known : next ∈ found
    · -- what is known is passed over
      obtain ⟨fresh, added, sublist, nodup, new⟩ := ih found
      refine ⟨fresh, ?_, sublist.cons next, nodup, new⟩
      rw [← added]
      simp [addNew, known]
    · obtain ⟨fresh, added, sublist, nodup, new⟩ := ih (found ++ [next])
      refine ⟨next :: fresh, ?_, sublist.cons_cons next, ?_, ?_⟩
      · rw [List.append_cons, ← added]
        simp [addNew, known]
      · exact List.nodup_cons.2 ⟨fun again => new next again (by simp), nodup⟩
      · exact List.forall_mem_cons.2 ⟨known, fun way mem there => new way mem (by simp [there])⟩

theorem pairwise_mergeSort_precedes (ways : List Place) :
    (ways.mergeSort precedes).Pairwise fun a b => ¬ b.map Text.codePoints < a.map Text.codePoints := by
  refine (List.pairwise_mergeSort (fun a b c ab bc => ?_) (fun a b => ?_) ways).imp fun h => ?_
  · simp only [precedes, Bool.not_eq_true', decide_eq_false_iff_not, List.not_lt] at ab bc ⊢
    exact List.le_trans ab bc
  · simp only [precedes, Bool.or_eq_true, Bool.not_eq_true', decide_eq_false_iff_not, List.not_lt]
    exact List.le_total _ _
  · simpa [precedes] using h

/-- Different ways that lead to files differ in their code points. -/
theorem map_codePoints_ne (proper : v.Proper) {a b : Place} (fileA : leadsToFile v root a = true)
    (fileB : leadsToFile v root b = true) (h : a ≠ b) :
    a.map Text.codePoints ≠ b.map Text.codePoints := by
  have back {way : Place} (file : leadsToFile v root way = true) :
      (way.map Text.codePoints).map Text.ofPoints = way := by
    obtain ⟨place, led, -⟩ := leadsToFile_iff.1 file
    rw [List.map_map]
    exact (List.map_congr_left (proper.spelled_of_locate led)).trans (List.map_id way)
  intro same
  rw [← back fileA, ← back fileB, same] at h
  exact h rfl

/-- A pattern keeps the files that it accepts and that are not left out, sorted. -/
theorem exists_byPattern (proper : v.Proper) (directory : v.isDirectory root = true) (ignore : List String)
    {g : Glob} {ways : List Place} (selected : g.select v root = .ok ways) :
    ∃ kept, byPattern v root ignore g = .ok kept ∧
      kept.Pairwise (fun a b => ¬ b.map Text.codePoints < a.map Text.codePoints) ∧ ∀ way, way ∈ kept ↔
        leadsToFile v root way = true ∧ g.acceptsFile way = true ∧ ¬ Excluded ignore way := by
  obtain ⟨kept, keeps, mem⟩ := byPattern_eq_ok ignore selected
  refine ⟨kept, keeps, ?_, fun way => ?_⟩
  · rw [byPattern, selected] at keeps
    cases keeps
    exact (pairwise_mergeSort_precedes ways).filter _
  · rw [mem, ← isIgnored_iff]
    cases file : leadsToFile v root way with
    | false => simp
    | true =>
      obtain ⟨place, led, isFile⟩ := leadsToFile_iff.1 file
      simp [Glob.mem_select_iff proper directory selected led isFile]

/-- One more pattern adds its files to a list, behind those that are there. -/
theorem IsListing.add (proper : v.Proper) {found kept : List Place} {g : Glob}
    (h : IsListing v root globs ignore found)
    (sorted : kept.Pairwise fun a b => ¬ b.map Text.codePoints < a.map Text.codePoints)
    (mem_kept : ∀ way, way ∈ kept ↔
      leadsToFile v root way = true ∧ g.acceptsFile way = true ∧ ¬ Excluded ignore way) :
    IsListing v root (globs ++ [g]) ignore (addNew found kept) := by
  obtain ⟨fresh, added, sublist, nodup, new⟩ := addNew_eq found kept
  have early : ∀ way ∈ found, earliest (globs ++ [g]) way = earliest globs way ∧
      earliest globs way < globs.length :=
    fun way mem => earliest_append_of_accepted ((h.mem_iff way).1 mem).2.1 [g]
  -- a file that was not there is accepted by no earlier pattern
  have late : ∀ way ∈ fresh, earliest (globs ++ [g]) way = globs.length := by
    intro way mem
    obtain ⟨file, accepted, included⟩ := (mem_kept way).1 (sublist.subset mem)
    refine earliest_concat (fun other listed => ?_) accepted
    by_contra already
    exact new way mem ((h.mem_iff way).2 ⟨file, ⟨other, listed, by simpa using already⟩, included⟩)
  have ordered : (found ++ fresh).Pairwise (Before (globs ++ [g])) := by
    refine List.pairwise_append.2 ⟨?_, ?_, ?_⟩
    · refine h.ordered.imp_of_mem fun {a b} memA memB before => ?_
      rwa [Before, (early a memA).1, (early b memB).1]
    · refine ((sorted.sublist sublist).and nodup).imp_of_mem fun {a b} memA memB less => ?_
      have fileA := ((mem_kept a).1 (sublist.subset memA)).1
      have fileB := ((mem_kept b).1 (sublist.subset memB)).1
      refine .inr ⟨(late a memA).trans (late b memB).symm, ?_⟩
      exact lt_of_le_of_ne (not_lt.1 less.1) (map_codePoints_ne proper fileA fileB less.2)
    · -- between the two: the number of an earlier pattern against that of the last one
      intro a memA b memB
      left
      rw [(early a memA).1, late b memB]
      exact (early a memA).2
  rw [added]
  refine ⟨ordered.imp fun before => before.ne, ordered, fun way => ?_⟩
  rw [← added, mem_addNew, h.mem_iff, mem_kept]
  simp only [List.mem_append, List.mem_singleton, or_and_right, exists_or, exists_eq_left]
  exact and_or_left.symm

/-! ## All patterns -/

/-- A search whose patterns can all be followed lists what it should. -/
theorem foldlM_isListing (proper : v.Proper) (directory : v.isDirectory root = true)
    {patterns : List String} {more : List Glob} (valid : patterns.mapM Glob.parse = .ok more)
    (fits : ∀ g ∈ more, ¬ g.Overlong v root) {found : List Place} (h : IsListing v root globs ignore found) :
    ∃ files, patterns.foldlM (addPattern v root ignore) found = .ok files ∧
      IsListing v root (globs ++ more) ignore files := by
  -- one pattern after another, from the files that the patterns before it have found
  induction mapM_eq_ok_iff.1 valid generalizing globs found with
  | nil => exact ⟨found, rfl, by simpa using h⟩
  | @cons pattern g patterns more read others ih =>
    obtain ⟨fitsFirst, fitsOthers⟩ := List.forall_mem_cons.1 fits
    obtain ⟨ways, selected⟩ := (Glob.exists_select_iff proper directory).2 fitsFirst
    obtain ⟨kept, keeps, sorted, mem⟩ := exists_byPattern proper directory ignore selected
    obtain ⟨files, onward, listing⟩ := ih (mapM_eq_ok_iff.2 others) fitsOthers (h.add proper sorted mem)
    refine ⟨files, ?_, by simpa using listing⟩
    rw [List.foldlM_cons, addPattern_of_byPattern read keeps]
    exact onward

/-- One pattern that cannot be followed stops the search. -/
theorem foldlM_of_overlong (proper : v.Proper) (directory : v.isDirectory root = true)
    {patterns : List String} (valid : patterns.mapM Glob.parse = .ok globs)
    (h : ∃ g ∈ globs, g.Overlong v root) (found : List Place) :
    patterns.foldlM (addPattern v root ignore) found = .error (.path .tooLong) := by
  induction mapM_eq_ok_iff.1 valid generalizing found with
  | nil => simp at h
  | @cons pattern g patterns globs read others ih =>
    rw [List.foldlM_cons]
    by_cases first : g.Overlong v root
    · have stopped : addPattern v root ignore found pattern = .error (.path .tooLong) := by
        simp [addPattern, read, byPattern, Glob.select_of_overlong proper directory first, Except.map]
      rw [stopped]
      rfl
    · obtain ⟨ways, selected⟩ := (Glob.exists_select_iff proper directory).2 first
      obtain ⟨kept, keeps, -⟩ := exists_byPattern proper directory ignore selected
      rw [addPattern_of_byPattern read keeps]
      exact ih (mapM_eq_ok_iff.2 others) (by simpa [first] using h) _

/-- Without a step up, a file is led to when it lies below the directory. -/
theorem leadsToFile_iff_isFile (sound : v.Sound) {way : Place} (noUp : ".." ∉ way) :
    leadsToFile v root way = true ↔ v.isFile (root ++ way) = true := by
  rw [leadsToFile_iff]
  simp only [sound.locate_iff noUp]
  constructor
  · rintro ⟨place, ⟨rfl, -⟩, file⟩
    exact file
  · intro file
    exact ⟨_, ⟨rfl, by simp [Volume.occupied, file]⟩, file⟩

/-- A search by any patterns lists the files that some pattern accepts and nothing excludes, each way once,
by the first pattern that accepts it and then by its names; only something that is too long to be looked up
stops it.  When no pattern goes up, these are the files below the directory. -/
theorem find_isListing (proper : v.Proper) (directory : v.isDirectory root = true) {patterns : List String}
    (valid : patterns.mapM Glob.parse = .ok globs) (ignore : List String) :
    ((∃ g ∈ globs, g.Overlong v root) → find v root patterns ignore = .error (.path .tooLong)) ∧
      ((∀ g ∈ globs, ¬ g.Overlong v root) → ∃ files, find v root patterns ignore = .ok files ∧
        IsListing v root globs ignore files ∧
        ((∀ g ∈ globs, .exact ".." ∉ g.parts) → ∀ way, way ∈ files ↔ v.isFile (root ++ way) = true ∧
          (∃ g ∈ globs, g.acceptsFile way = true) ∧ ¬ Excluded ignore way)) := by
  rw [find_eq_foldlM proper.toSound directory]
  refine ⟨fun long => foldlM_of_overlong proper directory valid long [], fun fits => ?_⟩
  have start : IsListing v root [] ignore [] := ⟨by simp, by simp, by simp⟩
  obtain ⟨files, done, listing⟩ := foldlM_isListing proper directory valid fits start
  refine ⟨files, done, listing, fun noUp way => ?_⟩
  rw [listing.mem_iff, List.nil_append]
  -- an accepted way has no step up, since the pattern has none
  refine and_congr_left ?_
  rintro ⟨⟨g, listed, accepted⟩, -⟩
  refine leadsToFile_iff_isFile proper.toSound (Glob.noUp_of_describes (noUp g listed) ?_)
  simp only [Glob.acceptsFile, Bool.and_eq_true] at accepted
  exact accepted.2

/-- A directory with a script, one in a directory below it, a file of types and a build product; beside the
directory lies one more script. -/
def nestedVolume : Volume where
  base := "/w"
  home := []
  entries := .ofList [(["x.ts"], .file ⟨[], none⟩), (["r", "b.ts"], .file ⟨[], none⟩),
    (["r", "sub", "a.ts"], .file ⟨[], none⟩), (["r", "sub", "t.d.ts"], .file ⟨[], none⟩),
    (["r", "dist", "c.ts"], .file ⟨[], none⟩)]

theorem nestedVolume_proper : nestedVolume.Proper :=
  ⟨⟨by decide, by decide, by decide⟩, by decide, by decide, by decide⟩

def overlapping : List Glob :=
  [⟨[.exact "sub", .wild (Wildcard.parse "*.ts")], false⟩, ⟨[.anyDepth, .wild (Wildcard.parse "*.ts")], false⟩]

theorem find_isListing_overlapping :
    ["sub/*.ts", "**/*.ts"].mapM Glob.parse = .ok overlapping ∧
      ∃ files, find nestedVolume ["r"] ["sub/*.ts", "**/*.ts"] ["*.d.ts"] = .ok files ∧
        IsListing nestedVolume ["r"] overlapping ["*.d.ts"] files ∧
          ["sub", "a.ts"] ∈ files ∧ ["b.ts"] ∈ files ∧ Before overlapping ["sub", "a.ts"] ["b.ts"] ∧
            ["sub", "t.d.ts"] ∉ files ∧ ["dist", "c.ts"] ∉ files := by
  have directory : nestedVolume.isDirectory ["r"] = true := by decide
  have valid : ["sub/*.ts", "**/*.ts"].mapM Glob.parse = .ok overlapping := by decide
  have fits : ∀ g ∈ overlapping, ¬ g.Overlong nestedVolume ["r"] := by
    -- selecting can be run, sorting cannot
    have selects : ∀ g ∈ overlapping, (g.select nestedVolume ["r"]).isOk = true := by decide
    intro g mem
    refine (Glob.exists_select_iff nestedVolume_proper directory).1 ?_
    cases selected : g.select nestedVolume ["r"] with
    | ok ways => exact ⟨ways, rfl⟩
    | error e => simpa [selected, Except.isOk, Except.toBool] using selects g mem
  obtain ⟨files, done, listing, below⟩ :=
    (find_isListing nestedVolume_proper directory valid ["*.d.ts"]).2 fits
  simp only [← isIgnored_iff] at below
  have mem := below (by decide)
  refine ⟨valid, files, done, listing, (mem _).2 (by decide), (mem _).2 (by decide), .inl (by decide), ?_, ?_⟩
  · exact mt (mem _).1 (by decide)
  · exact mt (mem _).1 (by decide)

/-- A pattern that goes up finds a file outside the directory, and another one finds a file a second time,
by a way of its own. -/
theorem upward_pattern_leaves_directory :
    find nestedVolume ["r"] ["../*.ts"] [] = .ok [["..", "x.ts"]] ∧
      nestedVolume.locate ["r"] ["..", "x.ts"] = .ok ["x.ts"] ∧
      find nestedVolume ["r"] ["*.ts", "sub/../*.ts"] [] = .ok [["b.ts"], ["sub", "..", "b.ts"]] ∧
      nestedVolume.locate ["r"] ["sub", "..", "b.ts"] = nestedVolume.locate ["r"] ["b.ts"] := by
  decide +kernel

end Discovery

end RepoAudit

import RepoAudit.Discovery
import RepoAudit.Proofs.Except
import RepoAudit.Proofs.Volume

/-! # What patterns select

A pattern that looks in every directory for names of a certain kind selects exactly the ways to such
names, and in a sound volume it always comes to an end.

* `Wildcard.accepts_many_points` – a star before plain characters accepts the texts that end in them;
* `Glob.selectFrom_wild`, `Glob.select_anywhere` – what the parts of a pattern select;
* `Glob.mem_select_anywhere` – a pattern that looks anywhere selects a file by its name alone;
* `Discovery.find_eq_ok` – a search finds what one of its patterns selects and nothing excludes.
-/

namespace RepoAudit

/-! ## Wildcards -/

namespace Wildcard

theorem mem_tails_iff {t ns : List Nat} : t ∈ tails ns ↔ t <:+ ns := by
  induction ns with
  | nil => simp [tails]
  | cons n rest ih => simp [tails, ih, List.suffix_cons_iff]

theorem acceptsPoints_points {ws ns : List Nat} :
    acceptsPoints (ws.map .point) ns = true ↔ ns = ws := by
  induction ws generalizing ns with
  | nil => simp [acceptsPoints]
  | cons w rest ih =>
    cases ns with
    | nil => simp [acceptsPoints]
    | cons n ns =>
      simp only [List.map_cons, acceptsPoints, admits, Bool.and_eq_true, beq_iff_eq, ih,
        List.cons.injEq]
      exact and_congr_left fun _ => eq_comm

/-- A star before plain characters accepts the texts that end in them. -/
theorem accepts_many_points {tail : List Char} (h : ∀ c ∈ tail, Text.IsPlain c) {s : String} :
    accepts (.many :: (tail.map Char.toNat).map .point) s = true ↔ tail <:+ s.toList := by
  rw [accepts_eq_acceptsPoints, acceptsPoints, List.any_eq_true]
  simp only [mem_tails_iff, acceptsPoints_points, exists_eq_right]
  exact Text.suffix_points_iff h

end Wildcard

/-! ## Selections that come to an end -/

namespace Glob

variable {v : Volume} {root : Place}

/-- A name with wildcards at the end of a pattern selects the names that it accepts. -/
theorem selectFrom_wild (sound : v.Sound) (w : Wildcard) {way : Place}
    (directory : v.isDirectory (root ++ way) = true) :
    selectFrom v root false [.wild w] way =
      .ok (((v.names (root ++ way)).filter w.accepts).map fun name => way ++ [name]) := by
  have here : namesAt v root way = v.names (root ++ way) := by
    rw [namesAt, sound.locate (by simp [Volume.occupied, directory])]
  have each : ∀ name ∈ v.names (root ++ way),
      (if w.accepts name then leads v root false (way ++ [name]) else .ok false) =
        (.ok (w.accepts name) : Except LocateError Bool) := by
    intro name listed
    have occ : v.occupied (root ++ (way ++ [name])) = true := by
      rw [← List.append_assoc]
      exact Volume.occupied_of_mem_names listed
    by_cases accepted : w.accepts name = true
    · simp [accepted, leads, sound.locateFrom occ]
    · simp [accepted]
  have found : ∀ names : List String,
      names.mapM (fun name => selectFrom v root false [] (way ++ [name])) =
        .ok (names.map fun name => [way ++ [name]]) :=
    fun names => mapM_eq_ok fun name _ => by rw [selectFrom]
  rw [selectFrom]
  simp only [List.isEmpty_nil, Bool.not_true, Bool.or_false, here]
  rw [filterM_eq_ok each]
  simp only [bind, Except.bind, pure, Except.pure, found]
  rw [← List.flatMap_def, ← List.map_eq_flatMap]

/-- A name with wildcards after two stars is looked for in every directory below. -/
theorem select_anywhere (sound : v.Sound) (w : Wildcard) (directory : v.isDirectory root = true) :
    select v root ⟨[.anyDepth, .wild w], false⟩ =
      .ok ((v.directoriesBelow root).flatMap fun down =>
        ((v.names (root ++ down)).filter w.accepts).map fun name => down ++ [name]) := by
  have occ : v.occupied (root ++ []) = true := by simp [Volume.occupied, directory]
  have down : waysDown v root [] = v.directoriesBelow root := by
    rw [waysDown, sound.locate occ, List.append_nil]
  have each : ∀ down ∈ v.directoriesBelow root,
      selectFrom v root false [.wild w] ([] ++ down) =
        .ok (((v.names (root ++ down)).filter w.accepts).map fun name => down ++ [name]) :=
    fun down mem => selectFrom_wild sound w ((Volume.mem_directoriesBelow_iff directory).1 mem)
  rw [select, selectFrom, down]
  simp only [bind, Except.bind, pure, Except.pure, mapM_eq_ok each]
  rw [← List.flatMap_def]

/-- A pattern that looks anywhere selects what is there by its name alone. -/
theorem mem_select_anywhere {w : Wildcard} (directory : v.isDirectory root = true) {parents : Place}
    {name : String} (occ : v.occupied (root ++ (parents ++ [name])) = true) :
    (parents ++ [name] ∈ (v.directoriesBelow root).flatMap fun down =>
        ((v.names (root ++ down)).filter w.accepts).map fun name => down ++ [name]) ↔
      w.accepts name = true := by
  simp only [List.mem_flatMap, List.mem_map, List.mem_filter, List.append_singleton_inj]
  constructor
  · rintro ⟨_, _, _, ⟨_, accepted⟩, _, rfl⟩
    exact accepted
  · intro accepted
    rw [← List.append_assoc] at occ
    have inside : name ∈ v.names (root ++ parents) := Volume.mem_names_of_occupied occ
    -- what has something in it is a directory
    have below : parents ∈ v.directoriesBelow root :=
      (Volume.mem_directoriesBelow_iff directory).2 (Volume.isDirectory_of_occupied occ)
    exact ⟨parents, below, name, ⟨inside, accepted⟩, rfl, rfl⟩

end Glob

/-! ## Searches -/

namespace Discovery

variable {v : Volume} {root : Place}

/-- A text is a pattern, and below a directory it selects these ways. -/
def Selection (v : Volume) (root : Place) (pattern : String) (ways : List Place) : Prop :=
  ∃ g, Glob.parse pattern = .ok g ∧ g.select v root = .ok ways

theorem Selection.unique {pattern : String} {ways ways' : List Place}
    (h : Selection v root pattern ways) (h' : Selection v root pattern ways') : ways = ways' := by
  obtain ⟨g, read, selected⟩ := h
  obtain ⟨g', read', selected'⟩ := h'
  cases read.symm.trans read'
  exact Except.ok.inj (selected.symm.trans selected')

theorem mem_addNew {found more : List Place} {way : Place} :
    way ∈ addNew found more ↔ way ∈ found ∨ way ∈ more := by
  induction more generalizing found with
  | nil => simp [addNew]
  | cons next rest ih =>
    rw [addNew, List.foldl_cons, ← addNew, ih]
    by_cases known : next ∈ found <;> grind

/-- The ways that a search keeps of those that a pattern selects. -/
theorem byPattern_eq_ok (ignore : List String) {g : Glob} {ways : List Place}
    (h : g.select v root = .ok ways) :
    ∃ kept, byPattern v root ignore g = .ok kept ∧ ∀ way, way ∈ kept ↔
      way ∈ ways ∧ leadsToFile v root way = true ∧ isIgnored ignore way = false := by
  refine ⟨_, by rw [byPattern, h]; rfl, fun way => ?_⟩
  simp [List.mem_mergeSort]

theorem addPattern_of_byPattern {ignore : List String} {pattern : String} {g : Glob} {found kept : List Place}
    (read : Glob.parse pattern = .ok g) (keeps : byPattern v root ignore g = .ok kept) :
    addPattern v root ignore found pattern = .ok (addNew found kept) := by
  simp [addPattern, read, keeps]

/-- When every pattern can be read and followed, the search finds what one of them selects and nothing
excludes. -/
theorem foldlM_addPattern (ignore : List String) {patterns : List String}
    (h : ∀ pattern ∈ patterns, ∃ ways, Selection v root pattern ways) (found : List Place) :
    ∃ files, patterns.foldlM (addPattern v root ignore) found = .ok files ∧ ∀ way, way ∈ files ↔
      way ∈ found ∨ ((∃ pattern ∈ patterns, ∃ ways, Selection v root pattern ways ∧ way ∈ ways) ∧
        leadsToFile v root way = true ∧ isIgnored ignore way = false) := by
  induction patterns generalizing found with
  | nil => exact ⟨found, rfl, by simp⟩
  | cons pattern rest ih =>
    obtain ⟨ways, selection⟩ := h pattern (by simp)
    obtain ⟨g, read, selected⟩ := id selection
    obtain ⟨kept, keeps, memKept⟩ := byPattern_eq_ok ignore selected
    -- the rest starts from what this pattern adds
    obtain ⟨files, onward, memFiles⟩ := ih (fun p mem => h p (by simp [mem])) (addNew found kept)
    refine ⟨files, ?_, fun way => ?_⟩
    · rw [List.foldlM_cons, addPattern_of_byPattern read keeps]
      exact onward
    · rw [memFiles, mem_addNew, memKept]
      have same : way ∈ ways ↔ ∃ ways, Selection v root pattern ways ∧ way ∈ ways :=
        ⟨fun mem => ⟨ways, selection, mem⟩, fun ⟨_, other, mem⟩ => selection.unique other ▸ mem⟩
      grind

/-- Below a directory, a search goes through all its patterns. -/
theorem find_eq_foldlM (sound : v.Sound) (directory : v.isDirectory root = true)
    (patterns ignore : List String) :
    find v root patterns ignore = patterns.foldlM (addPattern v root ignore) [] := by
  have occ : v.occupied ([] ++ root) = true := by simp [Volume.occupied, directory]
  have start : Glob.leads v [] true root = .ok true := by
    simp [Glob.leads, sound.locateFrom occ, directory]
  rw [find, start]

theorem find_eq_ok (sound : v.Sound) (directory : v.isDirectory root = true) (ignore : List String)
    {patterns : List String} (h : ∀ pattern ∈ patterns, ∃ ways, Selection v root pattern ways) :
    ∃ files, find v root patterns ignore = .ok files ∧ ∀ way, way ∈ files ↔
      (∃ pattern ∈ patterns, ∃ ways, Selection v root pattern ways ∧ way ∈ ways) ∧
        leadsToFile v root way = true ∧ isIgnored ignore way = false := by
  obtain ⟨files, done, mem⟩ := foldlM_addPattern ignore h []
  exact ⟨files, (find_eq_foldlM sound directory patterns ignore).trans done, fun way => by simpa using mem way⟩

theorem leadsToFile_of_isFile (sound : v.Sound) {way : Place} (file : v.isFile (root ++ way) = true) :
    leadsToFile v root way = true := by
  rw [leadsToFile, sound.locate (by simp [Volume.occupied, file])]
  exact file

end Discovery

end RepoAudit

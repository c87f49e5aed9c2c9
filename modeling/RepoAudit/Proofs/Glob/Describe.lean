import RepoAudit.Glob.Selector
import RepoAudit.Proofs.Except
import RepoAudit.Proofs.Volume

/-! # What any pattern selects

A pattern describes ways without regard to what is there: each of its parts stands for a stretch of names,
two stars for any number of them and every other part for one.  In a volume, a pattern selects the ways that
it describes and that lead somewhere.  It looks up names one by one, and one that is too long to be looked
up is the only thing that can stop it.

* `GlobPart.spans`, `Glob.describes` – the ways that a pattern describes;
* `Glob.nextWays`, `Glob.selectFrom_cons` – one part of a pattern at a time;
* `Glob.mem_selectFrom_iff` – which ways are selected;
* `Glob.LooksUp`, `Glob.exists_selectFrom_iff` – what is looked up, and when nothing stops a selection.
-/

namespace RepoAudit

/-- Whether a part of a pattern may stand for these names on a way. -/
def GlobPart.spans : GlobPart → Place → Bool
  | .anyDepth, names => !names.contains ".."
  | .wild w, [name] => name != ".." && w.acceptsPoints (Text.codePoints name)
  | .wild _, _ => false
  | .exact name, names => names == [name]

/-- The names that a part of a pattern looks up in a directory. -/
def GlobPart.Tries (v : Volume) (p : Place) : GlobPart → String → Prop
  | .anyDepth, _ => False
  | .wild w, name => name ∈ v.names p ∧ w.acceptsPoints (Text.codePoints name) = true
  | .exact text, name => name = text

@[simp] theorem GlobPart.spans_anyDepth_iff {next : Place} :
    anyDepth.spans next = true ↔ ".." ∉ next := by
  simp [spans]

@[simp] theorem GlobPart.spans_wild_iff {w : Wildcard} {next : Place} :
    (wild w).spans next = true ↔
      ∃ name, next = [name] ∧ name ≠ ".." ∧ w.acceptsPoints (Text.codePoints name) = true := by
  match next with
  | [] => simp [spans]
  | [name] => simp [spans]
  | _ :: _ :: _ => simp [spans]

@[simp] theorem GlobPart.spans_exact_iff {name : String} {next : Place} :
    (exact name).spans next = true ↔ next = [name] := by
  simp [spans]

namespace Glob

/-- Whether a row of parts describes a way: each stands for a stretch of it. -/
def describes : List GlobPart → Place → Bool
  | [], way => way.isEmpty
  | part :: parts, way =>
    (List.range (way.length + 1)).any fun n => part.spans (way.take n) && describes parts (way.drop n)

/-- Whether a row of parts describes nothing but directories: the pattern ends in a slash or in two
stars. -/
def endsInDirectory (directoriesOnly : Bool) : List GlobPart → Bool
  | [] => false
  | [part] => directoriesOnly || part == .anyDepth
  | _ :: parts => endsInDirectory directoriesOnly parts

def acceptsFile (g : Glob) (way : Place) : Bool :=
  !endsInDirectory g.directoriesOnly g.parts && describes g.parts way

theorem describes_cons_iff {part : GlobPart} {parts : List GlobPart} {way : Place} :
    describes (part :: parts) way = true ↔
      ∃ next more, way = next ++ more ∧ part.spans next = true ∧ describes parts more = true := by
  simp only [describes, List.any_eq_true, List.mem_range, Bool.and_eq_true]
  constructor
  · rintro ⟨n, -, spans, others⟩
    exact ⟨_, _, (List.take_append_drop n way).symm, spans, others⟩
  · rintro ⟨next, more, rfl, spans, others⟩
    refine ⟨next.length, ?_, ?_⟩
    · rw [List.length_append]
      omega
    · simpa using ⟨spans, others⟩

theorem endsInDirectory_cons {directoriesOnly : Bool} {parts : List GlobPart}
    (h : endsInDirectory directoriesOnly parts = true) (part : GlobPart) :
    endsInDirectory directoriesOnly (part :: parts) = true := by
  cases parts with
  | nil => cases h
  | cons => exact h

/-- Only parts that lead to directories may stand for nothing. -/
theorem eq_nil_or_endsInDirectory {parts : List GlobPart} (h : describes parts [] = true)
    (directoriesOnly : Bool) : parts = [] ∨ endsInDirectory directoriesOnly parts = true := by
  induction parts with
  | nil => exact .inl rfl
  | cons part parts ih =>
    right
    obtain ⟨next, more, empty, spans, others⟩ := describes_cons_iff.1 h
    obtain ⟨rfl, rfl⟩ := List.nil_eq_append_iff.1 empty
    cases part with
    | anyDepth =>
      rcases ih others with rfl | later
      · simp [endsInDirectory]
      · exact endsInDirectory_cons later _
    | wild w => simp at spans
    | exact name => simp at spans

/-- Parts that never go up describe ways that never do. -/
theorem noUp_of_describes {parts : List GlobPart} (h : .exact ".." ∉ parts) {way : Place}
    (described : describes parts way = true) : ".." ∉ way := by
  induction parts generalizing way with
  | nil => simp_all [describes]
  | cons part parts ih =>
    obtain ⟨other, h⟩ := not_or.1 (List.mem_cons.not.1 h)
    obtain ⟨next, more, rfl, spans, others⟩ := describes_cons_iff.1 described
    refine List.mem_append.not.2 (not_or.2 ⟨?_, ih h others⟩)
    cases part with
    | anyDepth => simpa using spans
    | wild w =>
      obtain ⟨name, rfl, isDown, -⟩ := GlobPart.spans_wild_iff.1 spans
      simpa using isDown.symm
    | exact name =>
      cases GlobPart.spans_exact_iff.1 spans
      simpa using other

/-! ## Looking up one way -/

variable {v : Volume} {root : Place}

theorem locateFrom_eq_locate {way : Place} (h : v.locateFrom root way ≠ .error .tooLong) :
    v.locateFrom root way = v.locate root way := by
  unfold Volume.locateFrom at h ⊢
  split
  · rename_i long
    exact absurd (if_pos long) h
  · rfl

theorem exists_leads_iff (toDirectory : Bool) {way : Place} :
    (∃ b, leads v root toDirectory way = .ok b) ↔ v.locateFrom root way ≠ .error .tooLong := by
  unfold leads
  split
  · simp_all
  · simp_all
  · simp_all

theorem eq_tooLong_of_leads {toDirectory : Bool} {way : Place} {e : LocateError}
    (h : leads v root toDirectory way = .error e) : e = .tooLong := by
  unfold leads at h
  split at h <;> cases h
  rfl

/-- A way leads on when it leads somewhere, and to a directory where it must. -/
theorem leads_iff (toDirectory : Bool) {way : Place} (h : v.locateFrom root way ≠ .error .tooLong) :
    leads v root toDirectory way = .ok true ↔
      ∃ q, v.locate root way = .ok q ∧ (toDirectory = true → v.isDirectory q = true) := by
  have same := locateFrom_eq_locate h
  unfold leads
  split
  · rename_i q led
    rw [same] at led
    cases toDirectory <;> simp [led]
  · exact absurd ‹_› h
  · rename_i e _ lost
    rw [same] at lost
    simp [lost]

/-! ## One part of a pattern -/

/-- The steps by which a part of a pattern goes on from a way. -/
def nextWays (v : Volume) (root : Place) (toDirectory : Bool) (part : GlobPart) (way : Place) :
    Except LocateError (List Place) :=
  match part with
  | .anyDepth => .ok (waysDown v root way)
  | .wild w => do
    let names ← (namesAt v root way).filterM fun name =>
      if w.accepts name then leads v root toDirectory (way ++ [name]) else .ok false
    return names.map fun name => [name]
  | .exact name => do
    let there ← leads v root toDirectory (way ++ [name])
    return if (Path.nameError? name).isNone && there then [[name]] else []

/-- A selection goes through its parts one by one. -/
theorem selectFrom_cons (directoriesOnly : Bool) (part : GlobPart) (parts : List GlobPart) (way : Place) :
    selectFrom v root directoriesOnly (part :: parts) way = (do
      let nexts ← nextWays v root (directoriesOnly || !parts.isEmpty) part way
      let found ← nexts.mapM fun next => selectFrom v root directoriesOnly parts (way ++ next)
      return found.flatten) := by
  cases part with
  | anyDepth =>
    rw [selectFrom]
    rfl
  | wild w =>
    rw [selectFrom]
    simp [nextWays, List.mapM_map, Function.comp_def]
  | exact name =>
    rw [selectFrom]
    simp only [nextWays]
    cases leads v root (directoriesOnly || !parts.isEmpty) (way ++ [name]) with
    | error e => rfl
    | ok there =>
      simp only [bind, Except.bind, pure, Except.pure]
      cases able : (Path.nameError? name).isNone && there with
      | false => rfl
      | true =>
        simp only [↓reduceIte, List.mapM_cons, List.mapM_nil, bind, Except.bind, pure, Except.pure]
        cases selectFrom v root directoriesOnly parts (way ++ [name]) <;> simp

section part

variable {toDirectory : Bool} {part : GlobPart} {way p : Place}

theorem exists_nextWays_iff (led : v.locate root way = .ok p) :
    (∃ nexts, nextWays v root toDirectory part way = .ok nexts) ↔
      ∀ name, part.Tries v p name → v.locateFrom root (way ++ [name]) ≠ .error .tooLong := by
  cases part with
  | anyDepth => simp [nextWays, GlobPart.Tries]
  | exact name =>
    simp only [nextWays, bind_eq_ok_iff, GlobPart.Tries, forall_eq, ← exists_leads_iff toDirectory]
    constructor
    · rintro ⟨_, there, answered, -⟩
      exact ⟨there, answered⟩
    · rintro ⟨there, answered⟩
      exact ⟨_, there, answered, rfl⟩
  | wild w =>
    have listed : namesAt v root way = v.names p := by simp [namesAt, led]
    have asked : (∃ nexts, nextWays v root toDirectory (.wild w) way = .ok nexts) ↔
        ∃ names, (v.names p).filterM (fun name =>
          if w.accepts name then leads v root toDirectory (way ++ [name]) else .ok false) = .ok names := by
      simp only [nextWays, listed, bind_eq_ok_iff]
      constructor
      · rintro ⟨_, names, kept, -⟩
        exact ⟨names, kept⟩
      · rintro ⟨names, kept⟩
        exact ⟨_, names, kept, rfl⟩
    rw [asked, exists_filterM_iff]
    simp only [GlobPart.Tries, and_imp, ← Wildcard.accepts_eq_acceptsPoints]
    refine forall_congr' fun name => imp_congr_right fun _ => ?_
    cases w.accepts name with
    | false => simp
    | true => simpa using exists_leads_iff toDirectory

theorem eq_tooLong_of_nextWays {e : LocateError} (h : nextWays v root toDirectory part way = .error e) :
    e = .tooLong := by
  cases part with
  | anyDepth => cases h
  | exact name =>
    rcases bind_eq_error_iff.1 h with failed | ⟨there, -, impossible⟩
    · exact eq_tooLong_of_leads failed
    · cases impossible
  | wild w =>
    rcases bind_eq_error_iff.1 h with failed | ⟨names, -, impossible⟩
    · obtain ⟨name, -, failed⟩ := exists_of_filterM_eq_error failed
      split at failed
      · exact eq_tooLong_of_leads failed
      · cases failed
    · cases impossible

/-- A part goes on by the stretches that it may stand for and that lead on. -/
theorem mem_nextWays_iff (proper : v.Proper) (led : v.locate root way = .ok p)
    (directory : v.isDirectory p = true) {nexts : List Place}
    (h : nextWays v root toDirectory part way = .ok nexts) {next : Place} :
    next ∈ nexts ↔ part.spans next = true ∧ ∃ q, v.locate root (way ++ next) = .ok q ∧
      ((toDirectory || part == .anyDepth) = true → v.isDirectory q = true) := by
  have unhindered := (exists_nextWays_iff led).1 ⟨nexts, h⟩
  -- where the way goes on from the directory that it has led to
  have onward {q : Place} : v.locate root (way ++ next) = .ok q ↔ v.locate p next = .ok q := by
    simp [Volume.locate_append_iff, led]
  cases part with
  | anyDepth =>
    have listed : nexts = v.directoriesBelow p := by simpa [nextWays, waysDown, led, eq_comm] using h
    rw [listed, Volume.mem_directoriesBelow_iff directory]
    simp only [GlobPart.spans_anyDepth_iff, onward, beq_self_eq_true, Bool.or_true, forall_const]
    constructor
    · intro below
      have occ : v.occupied (p ++ next) = true := by simp [Volume.occupied, below]
      have noUp : ".." ∉ next := fun isUp =>
        (proper.isName_of_occupied occ ".." (by simp [isUp])).noDots rfl
      exact ⟨noUp, p ++ next, proper.locate occ, below⟩
    · rintro ⟨noUp, q, reached, below⟩
      rwa [← Volume.eq_append_of_locate reached noUp]
  | exact name =>
    -- the name is looked up as it is, listed or not, so that a step up is possible
    have other : (GlobPart.exact name == .anyDepth) = false := rfl
    obtain ⟨there, answered, same⟩ := bind_eq_ok_iff.1 h
    cases same
    have lookedUp := leads_iff toDirectory (unhindered name rfl)
    simp only [GlobPart.spans_exact_iff, other, Bool.or_false]
    constructor
    · intro mem
      split at mem
      · rename_i able
        obtain ⟨-, rfl⟩ : _ ∧ there = true := by simpa using able
        cases List.mem_singleton.1 mem
        exact ⟨rfl, lookedUp.1 answered⟩
      · cases mem
    · rintro ⟨rfl, reached⟩
      cases answered.symm.trans (lookedUp.2 reached)
      obtain ⟨q, reached, -⟩ := reached
      have nameable := proper.nameable_of_locate reached name (by simp)
      simp [nameable]
  | wild w =>
    -- only listed names are looked up, and none of these goes up
    have other : (GlobPart.wild w == .anyDepth) = false := rfl
    obtain ⟨names, kept, same⟩ := bind_eq_ok_iff.1 h
    cases same
    have listed : namesAt v root way = v.names p := by simp [namesAt, led]
    rw [listed] at kept
    simp only [GlobPart.spans_wild_iff, other, Bool.or_false, List.mem_map, mem_of_filterM kept,
      Wildcard.accepts_eq_acceptsPoints]
    constructor
    · rintro ⟨name, ⟨inside, leadsOn⟩, rfl⟩
      split at leadsOn
      · rename_i accepted
        have isName := proper.isName_of_occupied (Volume.occupied_of_mem_names inside) name (by simp)
        refine ⟨⟨name, rfl, isName.noDots, accepted⟩, ?_⟩
        exact (leads_iff toDirectory (unhindered name ⟨inside, accepted⟩)).1 leadsOn
      · cases leadsOn
    · rintro ⟨⟨name, rfl, isDown, accepted⟩, q, reached, below⟩
      have here : q = p ++ [name] := Volume.eq_append_of_locate (onward.1 reached) (by simpa using isDown.symm)
      have inside : name ∈ v.names p :=
        Volume.mem_names_of_occupied (here ▸ Volume.occupied_of_locate_eq reached)
      refine ⟨name, ⟨inside, ?_⟩, rfl⟩
      rw [if_pos accepted]
      exact (leads_iff toDirectory (unhindered name ⟨inside, accepted⟩)).2 ⟨q, reached, below⟩

end part

/-! ## All parts -/

/-- A selection holds the ways that its parts describe and that lead somewhere, to a directory where they
must. -/
theorem mem_selectFrom_iff (proper : v.Proper) {directoriesOnly : Bool} {parts : List GlobPart}
    {way p : Place} (led : v.locate root way = .ok p) (directory : parts ≠ [] → v.isDirectory p = true)
    {ways : List Place} (h : selectFrom v root directoriesOnly parts way = .ok ways) {full : Place} :
    full ∈ ways ↔ ∃ more q, full = way ++ more ∧ describes parts more = true ∧
      v.locate root full = .ok q ∧ (endsInDirectory directoriesOnly parts = true → v.isDirectory q = true) := by
  -- on the parts; the way so far and the place to which it has led vary
  induction parts generalizing way p ways with
  | nil =>
    cases h
    simp only [List.mem_singleton, describes, List.isEmpty_iff, endsInDirectory, Bool.false_eq_true,
      false_implies, and_true]
    constructor
    · rintro rfl
      exact ⟨[], p, by simp, rfl, led⟩
    · rintro ⟨_, q, rfl, rfl, -⟩
      simp
  | cons part parts ih =>
    rw [selectFrom_cons] at h
    obtain ⟨nexts, goesOn, h⟩ := bind_eq_ok_iff.1 h
    obtain ⟨found, each, same⟩ := bind_eq_ok_iff.1 h
    cases same
    have atDirectory := directory (by simp)
    have memNexts (next : Place) : next ∈ nexts ↔ _ := mem_nextWays_iff proper led atDirectory goesOn
    rw [mem_flatten_of_mapM each]
    constructor
    · rintro ⟨next, goes, ways, selected, mem⟩
      obtain ⟨spans, r, reached, below⟩ := (memNexts next).1 goes
      obtain ⟨more, q, rfl, described, ledOn, ends⟩ :=
        (ih reached (fun further => below (by simp [further])) selected).1 mem
      refine ⟨next ++ more, q, by simp, describes_cons_iff.2 ⟨next, more, rfl, spans, described⟩, ledOn, ?_⟩
      intro mustEnd
      cases parts with
      | cons => exact ends mustEnd
      | nil =>
        -- the last part is the one that must lead to a directory
        cases List.isEmpty_iff.1 described
        rw [List.append_nil, reached] at ledOn
        cases ledOn
        exact below (by simpa [endsInDirectory] using mustEnd)
    · rintro ⟨_, q, rfl, described, ledOn, ends⟩
      obtain ⟨next, more, rfl, spans, described⟩ := describes_cons_iff.1 described
      have stretches : way ++ (next ++ more) = way ++ next ++ more := by simp
      obtain ⟨r, reached, onward⟩ := Volume.locate_append_iff.1 (stretches ▸ ledOn)
      have below : ((directoriesOnly || !parts.isEmpty) || part == .anyDepth) = true →
          v.isDirectory r = true := by
        intro must
        by_cases stays : more = []
        · -- all further parts stand for nothing, so that the way ends here
          subst stays
          obtain ⟨-, rfl⟩ := Volume.locate_nil_iff.1 onward
          apply ends
          rcases eq_nil_or_endsInDirectory described directoriesOnly with rfl | later
          · simpa [endsInDirectory] using must
          · exact endsInDirectory_cons later part
        · exact Volume.isDirectory_of_locate onward stays
      have goes := (memNexts next).2 ⟨spans, r, reached, below⟩
      obtain ⟨ways, selected⟩ := exists_mapM_iff.1 ⟨found, each⟩ next goes
      refine ⟨next, goes, ways, selected, ?_⟩
      exact (ih reached (fun further => below (by simp [further])) selected).2
        ⟨more, q, stretches, described, ledOn, fun later => ends (endsInDirectory_cons later part)⟩

/-! ## Selections that come to an end -/

/-- While parts are followed from a way, this way is looked up: the parts before one of them describe the
way to a directory, and that one tries a name there. -/
def LooksUp (v : Volume) (root : Place) (parts : List GlobPart) (way looked : Place) : Prop :=
  ∃ (before after : List GlobPart) (part : GlobPart) (start p : Place) (name : String),
    parts = before ++ part :: after ∧ describes before start = true ∧
      v.locate root (way ++ start) = .ok p ∧ v.isDirectory p = true ∧ part.Tries v p name ∧
        looked = way ++ start ++ [name]

theorem LooksUp.isDirectory {parts : List GlobPart} {way looked p : Place}
    (h : LooksUp v root parts way looked) (led : v.locate root way = .ok p) : v.isDirectory p = true := by
  obtain ⟨-, -, -, start, q, -, -, -, reached, directory, -⟩ := h
  obtain ⟨r, same, onward⟩ := Volume.locate_append_iff.1 reached
  cases led.symm.trans same
  -- either nothing lies between, or a way leads on
  by_cases stays : start = []
  · subst stays
    obtain ⟨-, rfl⟩ := Volume.locate_nil_iff.1 onward
    exact directory
  · exact Volume.isDirectory_of_locate onward stays

/-- What is looked up is tried by the first part or looked up by the others. -/
theorem looksUp_cons_iff {part : GlobPart} {parts : List GlobPart} {way looked p : Place}
    (led : v.locate root way = .ok p) (directory : v.isDirectory p = true) :
    LooksUp v root (part :: parts) way looked ↔
      (∃ name, part.Tries v p name ∧ looked = way ++ [name]) ∨
        ∃ next r, part.spans next = true ∧ v.locate root (way ++ next) = .ok r ∧
          LooksUp v root parts (way ++ next) looked := by
  constructor
  · rintro ⟨before, after, tried, start, q, name, split, described, reached, below, tries, rfl⟩
    cases before with
    | nil =>
      cases split
      cases List.isEmpty_iff.1 described
      rw [List.append_nil, led] at reached
      cases reached
      exact .inl ⟨name, tries, by simp⟩
    | cons first before =>
      cases split
      obtain ⟨next, more, rfl, spans, described⟩ := describes_cons_iff.1 described
      rw [← List.append_assoc] at reached
      obtain ⟨r, firstReached, -⟩ := Volume.locate_append_iff.1 reached
      exact .inr ⟨next, r, spans, firstReached, before, after, tried, more, q, name, rfl, described, reached,
        below, tries, by simp⟩
  · rintro (⟨name, tries, rfl⟩ | ⟨next, r, spans, -, before, after, tried, more, q, name, rfl, described,
      reached, below, tries, rfl⟩)
    · exact ⟨[], parts, part, [], p, name, rfl, rfl, by simpa using led, directory, tries, by simp⟩
    · refine ⟨part :: before, after, tried, next ++ more, q, name, rfl, ?_, ?_, below, tries, by simp⟩
      · exact describes_cons_iff.2 ⟨next, more, rfl, spans, described⟩
      · rwa [← List.append_assoc]

/-- A selection comes to an end unless something that it looks up is too long. -/
theorem exists_selectFrom_iff (proper : v.Proper) {directoriesOnly : Bool} {parts : List GlobPart}
    {way p : Place} (led : v.locate root way = .ok p) (directory : parts ≠ [] → v.isDirectory p = true) :
    (∃ ways, selectFrom v root directoriesOnly parts way = .ok ways) ↔
      ∀ looked, LooksUp v root parts way looked → v.locateFrom root looked ≠ .error .tooLong := by
  induction parts generalizing way p with
  | nil =>
    refine ⟨fun _ looked looksUp => ?_, fun _ => ⟨_, rfl⟩⟩
    obtain ⟨before, after, part, -, -, -, split, -⟩ := looksUp
    simp at split
  | cons part parts ih =>
    have atDirectory := directory (by simp)
    rw [selectFrom_cons]
    constructor
    · rintro ⟨ways, selected⟩ looked looksUp
      obtain ⟨nexts, goesOn, selected⟩ := bind_eq_ok_iff.1 selected
      obtain ⟨found, each, -⟩ := bind_eq_ok_iff.1 selected
      rcases (looksUp_cons_iff led atDirectory).1 looksUp with
        ⟨name, tries, rfl⟩ | ⟨next, r, spans, reached, later⟩
      · exact (exists_nextWays_iff led).1 ⟨nexts, goesOn⟩ name tries
      · -- something is looked up further on, so the first part has led to a directory
        have below := later.isDirectory reached
        have goes : next ∈ nexts :=
          (mem_nextWays_iff proper led atDirectory goesOn).2 ⟨spans, r, reached, fun _ => below⟩
        exact (ih reached fun _ => below).1 (exists_mapM_iff.1 ⟨found, each⟩ next goes) looked later
    · intro fits
      obtain ⟨nexts, goesOn⟩ :
          ∃ nexts, nextWays v root (directoriesOnly || !parts.isEmpty) part way = .ok nexts :=
        (exists_nextWays_iff led).2 fun name tries =>
          fits _ ((looksUp_cons_iff led atDirectory).2 (.inl ⟨name, tries, rfl⟩))
      have each : ∀ next ∈ nexts, ∃ ways, selectFrom v root directoriesOnly parts (way ++ next) = .ok ways := by
        intro next goes
        obtain ⟨spans, r, reached, below⟩ := (mem_nextWays_iff proper led atDirectory goesOn).1 goes
        refine (ih reached fun further => below (by simp [further])).2 fun looked later => ?_
        exact fits looked ((looksUp_cons_iff led atDirectory).2 (.inr ⟨next, r, spans, reached, later⟩))
      obtain ⟨found, each⟩ := exists_mapM_iff.2 each
      exact ⟨_, bind_eq_ok_iff.2 ⟨nexts, goesOn, bind_eq_ok_iff.2 ⟨found, each, rfl⟩⟩⟩

theorem eq_tooLong_of_selectFrom {directoriesOnly : Bool} {parts : List GlobPart} {way : Place}
    {e : LocateError} (h : selectFrom v root directoriesOnly parts way = .error e) : e = .tooLong := by
  induction parts generalizing way with
  | nil => cases h
  | cons part parts ih =>
    rw [selectFrom_cons] at h
    rcases bind_eq_error_iff.1 h with failed | ⟨nexts, -, failed⟩
    · exact eq_tooLong_of_nextWays failed
    · rcases bind_eq_error_iff.1 failed with failed | ⟨found, -, impossible⟩
      · obtain ⟨next, -, failed⟩ := exists_of_mapM_eq_error failed
        exact ih failed
      · cases impossible

/-! ## Patterns -/

/-- A pattern looks up something that is too long to be looked up. -/
def Overlong (v : Volume) (root : Place) (g : Glob) : Prop :=
  ∃ looked, LooksUp v root g.parts [] looked ∧ v.locateFrom root looked = .error .tooLong

theorem locate_self (directory : v.isDirectory root = true) : v.locate root [] = .ok root := by
  simp [Volume.locate, Volume.occupied, directory]

theorem exists_select_iff (proper : v.Proper) (directory : v.isDirectory root = true) {g : Glob} :
    (∃ ways, g.select v root = .ok ways) ↔ ¬ g.Overlong v root := by
  rw [select, exists_selectFrom_iff proper (locate_self directory) fun _ => directory]
  simp [Overlong]

theorem select_of_overlong (proper : v.Proper) (directory : v.isDirectory root = true) {g : Glob}
    (h : g.Overlong v root) : g.select v root = .error .tooLong := by
  cases selected : g.select v root with
  | ok ways => exact absurd h ((exists_select_iff proper directory).1 ⟨ways, selected⟩)
  | error e => rw [eq_tooLong_of_selectFrom selected]

/-- Of the ways to files, a pattern selects those that it accepts. -/
theorem mem_select_iff (proper : v.Proper) (directory : v.isDirectory root = true) {g : Glob}
    {ways : List Place} (h : g.select v root = .ok ways) {way place : Place}
    (led : v.locate root way = .ok place) (file : v.isFile place = true) :
    way ∈ ways ↔ g.acceptsFile way = true := by
  rw [mem_selectFrom_iff proper (locate_self directory) (fun _ => directory) h, acceptsFile]
  simp only [List.nil_append, led, Except.ok.injEq, Bool.and_eq_true, Bool.not_eq_true']
  constructor
  · rintro ⟨_, _, rfl, described, rfl, ends⟩
    refine ⟨?_, described⟩
    -- what must be a directory is no file
    simpa using mt ends (proper.not_isDirectory file)
  · rintro ⟨notDirectory, described⟩
    exact ⟨way, place, rfl, described, rfl, by simp [notDirectory]⟩

end Glob

end RepoAudit

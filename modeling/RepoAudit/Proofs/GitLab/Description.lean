import RepoAudit.GitLab.Text
import RepoAudit.Proofs.Except

/-! # What a description shows

The description of several issues has a section for each of them, numbered from one on.  What a section
says is given here line by line.  A section cannot be written when it would have to show a whole number with
too many digits, and then there is no description at all.

* `Issue.Writable` – all that a section shows can be written;
* `GitLab.sectionLines`, `GitLab.AreSections` – the lines of a section, and the sections of several issues;
* `GitLab.issueSection_of_writable`, `GitLab.issueSection_of_unwritable` – one section;
* `GitLab.issueDescription_of_writable`, `GitLab.issueDescription_of_unwritable` – the whole description.
-/

namespace RepoAudit

def Issue.shownValues (i : Issue) : List Value :=
  [i.path, .ofInt? i.firstLine, .ofInt? i.lastLine, i.language, i.snippet]

/-- No value that a section shows holds a whole number with too many digits. -/
def Issue.Writable (i : Issue) : Prop :=
  ∀ v ∈ i.shownValues, v.writable = true

instance (i : Issue) : Decidable i.Writable :=
  inferInstanceAs (Decidable (∀ v ∈ i.shownValues, v.writable = true))

theorem Value.writable_of_not_truthy {v : Value} (h : v.truthy = false) : v.writable = true := by
  cases v with
  | int n =>
    have zero : n = 0 := by simpa [truthy] using h
    subst zero
    decide +kernel
  | moment m => cases h
  | list items =>
    have empty : items = [] := by simpa [truthy] using h
    subst empty
    rfl
  | object fields =>
    have empty : fields = [] := by simpa [truthy] using h
    subst empty
    rfl
  | _ => rfl

namespace GitLab

open Text (fence tick)

/-- What stands for a value: the value if it says something, else a default. -/
def shown (default : String) (v : Value) : String :=
  if v.truthy then v.display else default

def sectionLines (number : Nat) (i : Issue) (confidence : Float) : List String :=
  ["### " ++ toString number ++ ". " ++ (if i.description = "" then "Code Health Issue" else i.description),
   "",
   "**File:** " ++ tick ++ shown "" i.path ++ tick,
   "**Lines:** " ++ toString (i.firstLine.getD 0) ++ "-" ++ toString (i.lastLine.getD 0),
   "**Confidence:** " ++ Decimal.general confidence ++ "%",
   "",
   "**Recommendation:**",
   i.recommendation,
   "",
   fence ++ shown "text" i.language,
   shown "" i.snippet,
   fence,
   "",
   "---",
   ""]

/-- The sections about several issues, numbered from one on. -/
def AreSections (issues : List Issue) (sections : List String) : Prop :=
  List.Forall₂ (fun entry text => ∃ confidence, entry.1.confidence = .float confidence ∧
    text = "\n".intercalate (sectionLines entry.2 entry.1 confidence)) (issues.zipIdx 1) sections

def descriptionOf (count : Nat) (sections : List String) : String :=
  "## Code Health Issues Found\n\nThis issue contains " ++ toString count
    ++ " code health findings that should be reviewed.\n\n" ++ "\n".intercalate sections
    ++ "\n## Next Steps\n1. Review each finding\n2. Create MRs for confirmed issues\n"
    ++ "3. Close issue when all items are addressed"

/-! ## One section -/

theorem shownOr_eq (default : String) (v : Value) :
    shownOr default v = if v.writable then .ok (shown default v) else .error .unwritable := by
  unfold shownOr shown
  cases said : v.truthy with
  | false => simp [Value.writable_of_not_truthy said]
  | true => simp

theorem shown_ofInt? (line : Option Int) :
    shown "0" (.ofInt? line) = toString (line.getD 0) := by
  cases line with
  | none => rfl
  | some n =>
    by_cases zero : n = 0
    · subst zero
      rfl
    · simp [shown, Value.ofInt?, Value.truthy, zero, Value.display, Value.quoted]

theorem shownOr_of_writable {v : Value} (h : v.writable = true) (default : String) :
    shownOr default v = .ok (shown default v) := by
  rw [shownOr_eq, if_pos h]

/-- What follows a value that cannot be written does not matter. -/
theorem shownOr_bind_eq_unwritable {default : String} {v : Value} {f : String → Except FormatError String}
    (h : v.writable = true → f (shown default v) = .error .unwritable) :
    shownOr default v >>= f = .error .unwritable := by
  rw [shownOr_eq]
  cases written : v.writable with
  | false => rfl
  | true => exact h written

variable {i : Issue} {confidence : Float}

theorem issueSection_of_writable (number : Nat) (isFloat : i.confidence = .float confidence)
    (writable : i.Writable) :
    issueSection number i = .ok ("\n".intercalate (sectionLines number i confidence)) := by
  simp only [Issue.Writable, Issue.shownValues, List.forall_mem_cons] at writable
  obtain ⟨path, firstLine, lastLine, language, snippet, -⟩ := writable
  simp only [issueSection, shownOr_of_writable, path, firstLine, lastLine, language, snippet, isFloat, amount,
    shown_ofInt?, bind, Except.bind, pure, Except.pure, Except.ok.injEq]
  -- both sides are the same characters, cut at different places
  rw [← String.toList_inj]
  simp [sectionLines]

theorem issueSection_of_unwritable (number : Nat) (isFloat : i.confidence = .float confidence)
    (unwritable : ¬ i.Writable) : issueSection number i = .error .unwritable := by
  rw [issueSection, isFloat]
  -- if no value fails before it, the next one is asked; in the end all of them could be written
  refine shownOr_bind_eq_unwritable fun path => shownOr_bind_eq_unwritable fun firstLine =>
    shownOr_bind_eq_unwritable fun lastLine => ?_
  simp only [amount, bind, Except.bind]
  refine shownOr_bind_eq_unwritable fun language => shownOr_bind_eq_unwritable fun snippet => ?_
  refine absurd ?_ unwritable
  simp [Issue.Writable, Issue.shownValues, path, firstLine, lastLine, language, snippet]

/-! ## The whole description -/

theorem issueSections_eq_mapM (number : Nat) (issues : List Issue) :
    issueSections number issues =
      (issues.zipIdx number).mapM fun entry => issueSection entry.2 entry.1 := by
  induction issues generalizing number with
  | nil => rfl
  | cons i rest ih =>
    rw [issueSections, List.zipIdx_cons, List.mapM_cons, ih]

variable {issues : List Issue}

/-- Issues that can be written have a description with a section for each. -/
theorem issueDescription_of_writable (floats : ∀ i ∈ issues, ∃ x, i.confidence = .float x)
    (writable : ∀ i ∈ issues, i.Writable) :
    ∃ sections, AreSections issues sections ∧
      issueDescription issues = .ok (descriptionOf issues.length sections) := by
  choose! x isFloat using floats
  have each : ∀ entry ∈ issues.zipIdx 1, issueSection entry.2 entry.1 =
      .ok ("\n".intercalate (sectionLines entry.2 entry.1 (x entry.1))) := by
    intro entry mem
    have listed := List.fst_mem_of_mem_zipIdx mem
    exact issueSection_of_writable entry.2 (isFloat _ listed) (writable _ listed)
  refine ⟨(issues.zipIdx 1).map fun entry =>
    "\n".intercalate (sectionLines entry.2 entry.1 (x entry.1)), ?_, ?_⟩
  · rw [AreSections, List.forall₂_map_right_iff, List.forall₂_same]
    intro entry mem
    exact ⟨x entry.1, isFloat _ (List.fst_mem_of_mem_zipIdx mem), rfl⟩
  · rw [issueDescription, issueSections_eq_mapM, mapM_eq_ok each]
    rfl

theorem issueDescription_of_unwritable (floats : ∀ i ∈ issues, ∃ x, i.confidence = .float x)
    (unwritable : ¬ ∀ i ∈ issues, i.Writable) : issueDescription issues = .error .unwritable := by
  rw [issueDescription, issueSections_eq_mapM]
  cases written : (issues.zipIdx 1).mapM fun entry => issueSection entry.2 entry.1 with
  | error e =>
    -- whichever section fails first, it is for the same reason
    obtain ⟨entry, mem, failed⟩ := exists_of_mapM_eq_error written
    obtain ⟨x, isFloat⟩ := floats _ (List.fst_mem_of_mem_zipIdx mem)
    by_cases good : entry.1.Writable
    · rw [issueSection_of_writable entry.2 isFloat good] at failed
      cases failed
    · rw [issueSection_of_unwritable entry.2 isFloat good] at failed
      cases failed
      rfl
  | ok sections =>
    refine absurd (fun i listed => ?_) unwritable
    rw [← List.zipIdx_map_fst 1 issues] at listed
    obtain ⟨entry, mem, rfl⟩ := List.mem_map.1 listed
    obtain ⟨x, isFloat⟩ := floats _ (List.fst_mem_of_mem_zipIdx mem)
    obtain ⟨text, succeeded⟩ := exists_mapM_iff.1 ⟨sections, written⟩ entry mem
    by_contra bad
    rw [issueSection_of_unwritable entry.2 isFloat bad] at succeeded
    cases succeeded

end GitLab

end RepoAudit

import RepoAudit.Audit
import RepoAudit.Proofs.GitLab.Client

/-! # What a run accounts for

A run puts three analyses, a review and the tracker together.  Each analysis counts for what it finds
alone: one that fails costs its own findings and nobody else's.

* `Isolated` – the findings of an analysis in a run, compared with the analysis alone;
* `run_eq_ok` – the stages of a run that yields a result;
* `report_of_unusable` – a manifest that makes the analysis of packages fail;
* `issuesOf_eq_ok`, `publish_eq_ok` – what the review and the tracker contribute;
* `run_accounts` – all of it together.
-/

namespace RepoAudit

/-- The findings of an analysis are what it yields alone, or none when it fails alone. -/
def Isolated {ε α : Type} (alone : Except ε (List α)) (found : List α) : Prop :=
  alone = .ok found ∨ (∃ e, alone = .error e) ∧ found = []

/-- A manifest that is no text, or a document other than an object. -/
def Package.Unusable (v : Volume) (root : Place) : Prop :=
  ∃ file, v.fileAt? (root ++ [Manifest.fileName]) = some file ∧
    (Text.Utf8.decode? file.bytes = none ∨
      ∃ text manifest, Text.Utf8.decode? file.bytes = some text ∧
        Value.parse text = .ok manifest ∧ ∀ fields, manifest ≠ .object fields)

/-- The analysis of packages fails on a manifest that it cannot use. -/
theorem Package.report_of_unusable {v : Volume} {root : Place} (h : Unusable v root)
    (outcome : ManagerOutcome) : ∃ e, report v root outcome = .error e := by
  have refused : ∃ e, Manifest.declared v root = .error e := by
    obtain ⟨file, place, undecodable | ⟨text, manifest, decoded, parsed, noObject⟩⟩ := h
    · simp only [Manifest.declared, place, Manifest.parse, undecodable]
      exact ⟨_, rfl⟩
    · have noPackages : Manifest.packagesOf manifest = .error .notObject := by
        cases manifest with
        | object fields => exact absurd rfl (noObject fields)
        | _ => rfl
      simp only [Manifest.declared, place, Manifest.parse, decoded, parsed, noPackages]
      exact ⟨_, rfl⟩
  obtain ⟨e, refused⟩ := refused
  rw [report, refused]
  exact ⟨e, rfl⟩

namespace Review

/-- Without a model every finding has an issue of its own: dead code first, then duplicates, then
packages. -/
theorem map_description_plain (f : Findings) :
    (plain f).map (fun i => (i.kind, i.description)) =
      f.deadCode.map (fun d => (some "dead_code", "Unused function: " ++ d.name)) ++
      f.duplicates.map (fun d =>
        (some "duplicate", "Duplicate code between " ++ d.path1 ++ " and " ++ d.path2)) ++
      f.dependencies.map (fun d => (some "dependency", d.package ++ ": " ++ d.reason)) := by
  simp [plain, ofDeadCode, ofDuplicate, ofDependency, Function.comp_def]

end Review

theorem GitLabSettings.enabled_iff {g : GitLabSettings} :
    g.enabled = true ↔ g.token ≠ "" ∧ g.projectId ≠ "" := by
  simp [enabled]

namespace Audit

theorem isolated_orNone {ε α : Type} (alone : Except ε (List α)) : Isolated alone (orNone alone) := by
  cases alone with
  | ok found => exact .inl rfl
  | error e => exact .inr ⟨⟨e, rfl⟩, rfl⟩

variable {s : Settings} {root : Place} {publishing : Bool} {o o' : Outside} {r : AuditResult}

/-! ## The stages of a run -/

/-- A run that yields a result went through all its stages, each of which starts from what the one
before it left. -/
theorem run_eq_ok (h : run s root publishing o = (.ok r, o')) :
    ∃ issues w t, issuesOf s.llm (analyse s root o).1 (analyse s root o).2.llm = (.ok issues, w) ∧
      (if publishing then publish s.gitlab issues o.tracker else (.ok (), o.tracker)) = (.ok (), t) ∧
      summarise (analyse s root o).1 issues = .ok r ∧ o' = { o with llm := w, tracker := t } := by
  simp only [run] at h
  split at h
  · cases h
  · rename_i issues w reviewed
    rw [show (analyse s root o).2.tracker = o.tracker from rfl] at h
    generalize step :
      (if publishing then publish s.gitlab issues o.tracker else (.ok (), o.tracker)) = outcome at h
    obtain ⟨published, t⟩ := outcome
    cases published with
    | error e => cases h
    | ok _ =>
      dsimp only at h
      split at h
      · cases h
      · rename_i result summary
        cases h
        exact ⟨issues, w, t, reviewed, step, summary, rfl⟩

/-- The issues of a run are the list of the review if there is one and it is not empty, else those of
the findings themselves. -/
theorem issuesOf_eq_ok {l : LlmSettings} {f : Findings} {w w' : Wire} {issues : List Issue}
    (h : issuesOf l f w = (.ok issues, w')) :
    ∃ listed, (l.enabled = true → (Review.ask (Provider.ofSettings l) w f).1 = .ok listed) ∧
      (l.enabled = false → listed = []) ∧
      issues = if listed.isEmpty then Review.plain f else listed := by
  unfold issuesOf at h
  split at h
  · rename_i enabled
    split at h
    · rename_i asked
      cases h
      exact ⟨[], fun _ => by rw [asked], fun _ => rfl, rfl⟩
    · rename_i nonempty asked
      cases h
      refine ⟨issues, fun _ => by rw [asked], fun disabled => ?_, ?_⟩
      · rw [enabled] at disabled
        cases disabled
      · cases issues with
        | nil => exact absurd rfl nonempty
        | cons first others => rfl
    · cases h
  · rename_i disabled
    cases h
    exact ⟨[], fun enabled => absurd enabled disabled, fun _ => rfl, rfl⟩

theorem summarise_eq_ok {f : Findings} {issues : List Issue} (h : summarise f issues = .ok r) :
    r.findings = f ∧ r.issues = issues ∧ r.totalIssues = issues.length := by
  unfold summarise at h
  cases scored : healthScore issues with
  | error e => simp [scored, bind, Except.bind] at h
  | ok score =>
    simp only [scored, bind, Except.bind, pure, Except.pure, Except.ok.injEq] at h
    subst h
    exact ⟨rfl, rfl, rfl⟩

/-- Publishing that succeeds sends something exactly when there is a project and an issue. -/
theorem publish_eq_ok {g : GitLabSettings} {issues : List Issue} {w w' : Wire}
    (h : publish g issues w = (.ok (), w')) :
    ∃ requests, w'.sent = w.sent ++ requests ∧
      (requests ≠ [] ↔ g.enabled = true ∧ issues ≠ []) := by
  unfold publish at h
  split at h
  · rename_i wanted
    rw [Bool.and_eq_true, Bool.not_eq_true', List.isEmpty_eq_false_iff] at wanted
    dsimp only at h
    split at h
    · rename_i created
      cases h
      obtain ⟨requests, sent, each⟩ := Tracker.createIssues_sent created
      exact ⟨requests, sent, by rw [Ne, each]; exact ⟨fun _ => wanted, fun h => h.2⟩⟩
    · cases h
  · rename_i unwanted
    cases h
    rw [Bool.and_eq_true, Bool.not_eq_true', List.isEmpty_eq_false_iff] at unwanted
    exact ⟨[], by simp, by simpa using unwanted⟩

/-- The tracker gets a request exactly when publishing is wanted, a project is given and there are
issues. -/
theorem posts_iff {g : GitLabSettings} {issues : List Issue} {w w' : Wire}
    (h : (if publishing then publish g issues w else (.ok (), w)) = (.ok (), w')) :
    (∃ requests, requests ≠ [] ∧ w'.sent = w.sent ++ requests) ↔
      publishing = true ∧ g.token ≠ "" ∧ g.projectId ≠ "" ∧ issues ≠ [] := by
  cases publishing with
  | false =>
    cases h
    simp
  | true =>
    obtain ⟨requests, sent, anything⟩ := publish_eq_ok h
    rw [GitLabSettings.enabled_iff, and_assoc] at anything
    rw [← anything, sent]
    constructor
    · -- what was sent is determined by what the wire holds before and after
      rintro ⟨others, nonempty, same⟩
      rw [List.append_cancel_left same]
      exact ⟨rfl, nonempty⟩
    · rintro ⟨-, nonempty⟩
      exact ⟨requests, nonempty, rfl⟩

/-! ## The whole run -/

/-- What the result of a run has to do with its parts.

* Each analysis counts for what it yields alone, whatever the others do; in particular packages have
  no findings when the manifest cannot be used.
* Duplicates are looked for with a model only.
* The issues are the list of the review, if a model is there and lists any; else there is one issue for
  each finding, in the order dead code, duplicates, packages.
* The tracker gets a request exactly when publishing is wanted, a project is given and there are
  issues. -/
structure Accounts (s : Settings) (root : Place) (publishing : Bool) (o o' : Outside)
    (r : AuditResult) : Prop where
  deadCode : Isolated (deadCodeGiven s.analysis.testMarkers s.analysis.confidence
    (Parsing.parseProject o.volume root)) r.findings.deadCode
  dependencies : Isolated (Package.report o.volume root o.manager) r.findings.dependencies
  unusable : Package.Unusable o.volume root → r.findings.dependencies = []
  duplicates : s.llm.enabled = true →
    Isolated (Duplicate.compareAll (Provider.ofSettings s.llm) o.llm
      (Parsing.parseProject o.volume root)).1 r.findings.duplicates
  noDuplicates : s.llm.enabled = false → r.findings.duplicates = []
  issues : ∃ listed,
    (s.llm.enabled = true → (Review.ask (Provider.ofSettings s.llm)
      (duplicatesOf o.volume root s.llm o.llm).2 r.findings).1 = .ok listed) ∧
    (s.llm.enabled = false → listed = []) ∧
    r.issues = if listed.isEmpty then Review.plain r.findings else listed
  plain : (Review.plain r.findings).map (fun i => (i.kind, i.description)) =
    r.findings.deadCode.map (fun d => (some "dead_code", "Unused function: " ++ d.name)) ++
    r.findings.duplicates.map (fun d =>
      (some "duplicate", "Duplicate code between " ++ d.path1 ++ " and " ++ d.path2)) ++
    r.findings.dependencies.map (fun d => (some "dependency", d.package ++ ": " ++ d.reason))
  totalIssues : r.totalIssues = r.issues.length
  posts : (∃ requests, requests ≠ [] ∧ o'.tracker.sent = o.tracker.sent ++ requests) ↔
    publishing = true ∧ s.gitlab.token ≠ "" ∧ s.gitlab.projectId ≠ "" ∧ r.issues ≠ []

/-- The result of every run accounts for the analyses, the review and the tracker. -/
theorem run_accounts (h : run s root publishing o = (.ok r, o')) :
    Accounts s root publishing o o' r := by
  obtain ⟨issues, w, t, reviewed, published, summary, rfl⟩ := run_eq_ok h
  obtain ⟨found, rfl, total⟩ := summarise_eq_ok summary
  have deadCode : r.findings.deadCode = orNone (deadCodeOf o.volume root s.analysis) := by
    rw [found]
    rfl
  have dependencies : r.findings.dependencies = orNone (Package.report o.volume root o.manager) := by
    rw [found]
    rfl
  have duplicates : r.findings.duplicates = orNone (duplicatesOf o.volume root s.llm o.llm).1 := by
    rw [found]
    rfl
  refine ⟨?_, ?_, ?_, ?_, ?_, ?_, Review.map_description_plain _, total, ?_⟩
  · rw [deadCode]
    exact isolated_orNone _
  · rw [dependencies]
    exact isolated_orNone _
  · intro unusable
    obtain ⟨e, failed⟩ := Package.report_of_unusable unusable o.manager
    rw [dependencies, failed]
    rfl
  · intro enabled
    rw [duplicates, duplicatesOf, if_pos enabled]
    exact isolated_orNone _
  · intro disabled
    rw [duplicates, duplicatesOf, disabled]
    rfl
  · rw [found]
    exact issuesOf_eq_ok reviewed
  · exact posts_iff published

/-- A repository that holds one function, called by nobody, and a manifest that is no text. -/
def uncalled : Volume where
  base := "/"
  home := ["repo"]
  entries := Table.ofList [
    (["repo"], .directory),
    (["repo", "package.json"], .file { bytes := [0xff], tree := none }),
    (["repo", "a.ts"], .file {
      bytes := Text.Utf8.encode "function f() \x7b\x7d"
      tree := some ⟨"program", true, none, 0, 15, [
        ⟨"function_declaration", true, none, 0, 15, [
          ⟨"identifier", true, some "name", 9, 10, []⟩,
          ⟨"formal_parameters", true, some "parameters", 10, 12, []⟩,
          ⟨"statement_block", true, some "body", 13, 15, []⟩]⟩]⟩ })]

/-- A model and a project are there, the model does not answer and the project does.  The function is found,
although the packages cannot be looked at. -/
theorem run_accounts_uncalled :
    let s : Settings := { llm := { provider := "ollama" }, gitlab := { token := "t", projectId := "9" } }
    let o : Outside :=
      { volume := uncalled, llm := { replies := [.failed ""] }, tracker := { replies := [.body (.object [])] } }
    Package.Unusable uncalled ["repo"] ∧
      ∃ r o', run s ["repo"] true o = (.ok r, o') ∧ Accounts s ["repo"] true o o' r ∧
        r.findings.deadCode.map (·.name) = ["f"] := by
  intro s o
  have found : (run s ["repo"] true o).1.toOption.map (·.findings.deadCode.map (·.name)) = some ["f"] := by
    decide +kernel
  refine ⟨⟨{ bytes := [0xff], tree := none }, rfl, .inl (by decide +kernel)⟩, ?_⟩
  cases ended : run s ["repo"] true o with
  | mk outcome o' =>
    rw [ended] at found
    cases outcome with
    | error e => cases found
    | ok r => exact ⟨r, o', rfl, run_accounts ended, Option.some.inj found⟩

end Audit

end RepoAudit

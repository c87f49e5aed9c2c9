import Mathlib.Data.List.Induction
import RepoAudit.GitLab.Client
import RepoAudit.Proofs.Table

/-! # What publishing sends

Every document that is sent to the tracker is one request more on the wire, and nothing that was sent
before is touched.

* `Tracker.createGroups_sent` – one request for each group;
* `entries_groupBySeverity_eq_nil_iff` – there are groups as soon as there are issues;
* `Tracker.createIssues_sent` – something is sent exactly when there is something to publish.
-/

namespace RepoAudit

namespace Tracker

variable {t : Tracker} {w w' : Wire}

theorem post_sent {action : String} {payload v : Value} (h : t.post w action payload = (.ok v, w')) :
    ∃ request, w'.sent = w.sent ++ [request] := by
  unfold post at h
  dsimp only at h
  split at h
  · cases h
  · have sent := Wire.sent_post w
      { url := t.actionUrl action, headers := [("PRIVATE-TOKEN", t.token)], payload := payload
        timeout := timeout }
    split at h
    · rename_i posted
      cases h
      rw [posted] at sent
      exact ⟨_, sent⟩
    · cases h
    · cases h
    · cases h

theorem postForObject_sent {action : String} {payload v : Value}
    (h : t.postForObject w action payload = (.ok v, w')) :
    ∃ request, w'.sent = w.sent ++ [request] := by
  unfold postForObject at h
  split at h
  · rename_i posted
    cases h
    exact post_sent posted
  · cases h
  · cases h

/-- One request is sent for each group. -/
theorem createGroups_sent {groups : List (String × List Issue)} {created : List Value}
    (h : t.createGroups w groups = (.ok created, w')) :
    ∃ requests, w'.sent = w.sent ++ requests ∧ requests.length = groups.length := by
  induction groups generalizing w created with
  | nil =>
    cases h
    exact ⟨[], by simp, rfl⟩
  | cons group rest ih =>
    rw [createGroups] at h
    split at h
    · cases h
    · split at h
      · cases h
      · rename_i posted
        obtain ⟨request, first⟩ := postForObject_sent posted
        split at h
        · rename_i others
          cases h
          obtain ⟨requests, later, each⟩ := ih others
          exact ⟨request :: requests, by rw [later, first, List.append_assoc]; rfl, by simp [each]⟩
        · cases h

end Tracker

theorem groupBySeverity_concat (issues : List Issue) (i : Issue) :
    groupBySeverity (issues ++ [i]) =
      (groupBySeverity issues).alter i.severityOrMedium fun group => group.getD [] ++ [i] := by
  simp [groupBySeverity]

/-- There are groups as soon as there are issues. -/
theorem entries_groupBySeverity_eq_nil_iff {issues : List Issue} :
    (groupBySeverity issues).entries = [] ↔ issues = [] := by
  induction issues using List.reverseRecOn with
  | nil => simp [groupBySeverity]
  | append_singleton init last => simp [groupBySeverity_concat, Table.entries_alter_ne_nil]

/-- Something is sent exactly when there is something to publish. -/
theorem Tracker.createIssues_sent {t : Tracker} {w w' : Wire} {issues : List Issue}
    {created : List Value} (h : t.createIssues w issues = (.ok created, w')) :
    ∃ requests, w'.sent = w.sent ++ requests ∧ (requests = [] ↔ issues = []) := by
  obtain ⟨requests, sent, each⟩ := createGroups_sent h
  refine ⟨requests, sent, ?_⟩
  rw [← List.length_eq_zero_iff, each, List.length_eq_zero_iff, entries_groupBySeverity_eq_nil_iff]

end RepoAudit

import Mathlib.Data.List.Forall2
import RepoAudit.Proofs.GitLab.Client
import RepoAudit.Proofs.GitLab.Description
import RepoAudit.Total

/-! # Publishing loses no issue

The issues of a list are sorted by severity, and each severity is published by one request.  A group that no
request can be made for ends the work, and so does a request that fails.  What has been sent by then is known
from the groups and the replies alone.

* `GroupedBySeverity`, `groupBySeverity_grouped` – each severity once, in order of first appearance, with
  its issues;
* `flatMap_groupBySeverity_perm` – every issue is in one group;
* `Wire.replyAt`, `Tracker.outcome` – the reply to each request to come, and what follows from it;
* `Tracker.Opens`, `Tracker.obstacle?` – a request that opens the issue for one severity, with numbered
  sections, and why there may be none;
* `Tracker.createGroups_cons_of_free`, `Tracker.createGroups_cons_of_obstacle` – one group;
* `Tracker.Reaches`, `Tracker.exists_reaches` – one group after the other;
* `Tracker.createIssues_publishes` – all of it together.
-/

namespace RepoAudit

/-! ## Groups -/

/-- Each severity of a list of issues once, in order of first appearance, with the issues of that severity
in the order of the list.  An empty severity stands for the medium one. -/
structure GroupedBySeverity (issues : List Issue) (groups : List (String × List Issue)) : Prop where
  named : ∀ i ∈ issues, i.severityOrMedium =
    if i.severity.getD "" = "" then "medium" else i.severity.getD ""
  severities : ∀ s, s ∈ groups.map (·.1) ↔ ∃ i ∈ issues, i.severityOrMedium = s
  order : (groups.map (·.1)).Pairwise fun s s' =>
    (issues.map (·.severityOrMedium)).idxOf s < (issues.map (·.severityOrMedium)).idxOf s'
  members : ∀ group ∈ groups, group.2 = issues.filter (·.severityOrMedium == group.1)

theorem find?_groupBySeverity (issues : List Issue) (s : String) :
    (groupBySeverity issues).find? s =
      if s ∈ issues.map (·.severityOrMedium) then some (issues.filter (·.severityOrMedium == s))
      else none := by
  induction issues using List.reverseRecOn with
  | nil => rfl
  | append_singleton init last ih =>
    rw [groupBySeverity_concat, Table.find?_alter]
    by_cases same : s = last.severityOrMedium
    · -- a severity that is new has no issues among the earlier ones
      have absent (unmet : s ∉ init.map (·.severityOrMedium)) :
          init.filter (·.severityOrMedium == s) = [] := by
        simpa [List.filter_eq_nil_iff] using unmet
      by_cases met : s ∈ init.map (·.severityOrMedium)
      · simp [← same, ih, met]
      · simp [← same, ih, met, absent met]
    · simp [same, ih, Ne.symm same]

theorem nodup_keys_groupBySeverity (issues : List Issue) : (groupBySeverity issues).keys.Nodup := by
  induction issues using List.reverseRecOn with
  | nil => exact List.nodup_nil
  | append_singleton init last ih =>
    rw [groupBySeverity_concat]
    exact Table.nodup_keys_alter ih _ _

theorem mem_keys_groupBySeverity {issues : List Issue} {s : String} :
    s ∈ (groupBySeverity issues).keys ↔ s ∈ issues.map (·.severityOrMedium) := by
  constructor
  · intro listed
    obtain ⟨group, found⟩ := Table.exists_find?_of_mem_keys listed
    rw [find?_groupBySeverity] at found
    split at found
    · assumption
    · cases found
  · intro met
    refine Table.mem_keys_of_find? (v := issues.filter (·.severityOrMedium == s)) ?_
    rw [find?_groupBySeverity, if_pos met]

theorem pairwise_keys_groupBySeverity (issues : List Issue) :
    (groupBySeverity issues).keys.Pairwise fun s s' =>
      (issues.map (·.severityOrMedium)).idxOf s < (issues.map (·.severityOrMedium)).idxOf s' := by
  induction issues using List.reverseRecOn with
  | nil => exact .nil
  | append_singleton init last ih =>
    have former : (groupBySeverity init).keys.Pairwise fun s s' =>
        ((init ++ [last]).map (·.severityOrMedium)).idxOf s <
          ((init ++ [last]).map (·.severityOrMedium)).idxOf s' := by
      refine ih.imp_of_mem fun {s s'} listed listed' before => ?_
      rw [mem_keys_groupBySeverity] at listed listed'
      rwa [List.map_append, List.idxOf_append_of_mem listed, List.idxOf_append_of_mem listed']
    rw [groupBySeverity_concat, Table.keys, Table.alter, Table.keys_alterIn, ← Table.keys]
    split
    · exact former
    · -- a severity that is new appears behind all that have appeared
      rename_i unmet
      rw [mem_keys_groupBySeverity] at unmet
      refine List.pairwise_append.2 ⟨former, List.pairwise_singleton _ _, ?_⟩
      intro s listed s' new
      rw [mem_keys_groupBySeverity] at listed
      rw [List.mem_singleton] at new
      subst new
      rw [List.map_append, List.idxOf_append_of_mem listed, List.idxOf_append_of_notMem unmet]
      exact Nat.lt_of_lt_of_le (List.idxOf_lt_length_of_mem listed) (Nat.le_add_right _ _)

theorem groupBySeverity_grouped (issues : List Issue) :
    GroupedBySeverity issues (groupBySeverity issues).entries where
  named i _ := by
    unfold Issue.severityOrMedium
    cases i.severity with
    | none => rfl
    | some s => simp
  severities s := by
    rw [← Table.keys, mem_keys_groupBySeverity, List.mem_map]
  order := pairwise_keys_groupBySeverity issues
  members := by
    rintro ⟨s, group⟩ mem
    have found := (Table.mem_entries_iff (nodup_keys_groupBySeverity issues)).1 mem
    rw [find?_groupBySeverity] at found
    split at found
    · exact (Option.some.inj found).symm
    · cases found

theorem flatMap_alterIn_perm (s : String) (i : Issue) (groups : List (String × List Issue)) :
    ((Table.alterIn s (fun group => group.getD [] ++ [i]) groups).flatMap (·.2)).Perm
      (groups.flatMap (·.2) ++ [i]) := by
  induction groups with
  | nil => exact .refl _
  | cons first rest ih =>
    by_cases same : first.1 = s
    · -- the issue goes to the end of its group, in front of the groups behind it
      simp only [Table.alterIn, same, if_true, List.flatMap_cons, Option.getD_some, List.append_assoc]
      exact (List.perm_append_comm).append_left first.2
    · simp only [Table.alterIn, same, if_false, List.flatMap_cons, List.append_assoc]
      exact ih.append_left first.2

/-- The groups hold every issue once. -/
theorem flatMap_groupBySeverity_perm (issues : List Issue) :
    ((groupBySeverity issues).entries.flatMap (·.2)).Perm issues := by
  induction issues using List.reverseRecOn with
  | nil => exact .refl _
  | append_singleton init last ih =>
    rw [groupBySeverity_concat]
    exact (flatMap_alterIn_perm _ last _).trans (ih.append_right [last])

theorem total_length_groupBySeverity (issues : List Issue) :
    total ((groupBySeverity issues).entries.map (·.2.length)) = issues.length := by
  have many := (flatMap_groupBySeverity_perm issues).length_eq
  rw [List.length_flatMap] at many
  exact many

/-! ## Replies to come -/

namespace Wire

/-- The reply to a request with `k` others before it; the last reply repeats. -/
def replyAt (w : Wire) (k : Nat) : Reply :=
  w.replies.getD (min k (w.replies.length - 1)) noReply

theorem next_replies_fst (w : Wire) : (next w.replies).1 = w.replyAt 0 := by
  obtain ⟨replies, sent⟩ := w
  cases replies with
  | nil => rfl
  | cons first rest => cases rest <;> simp [replyAt, next]

theorem replyAt_post (w : Wire) (r : Request) (k : Nat) : (w.post r).2.replyAt k = w.replyAt (k + 1) := by
  obtain ⟨replies, sent⟩ := w
  cases replies with
  | nil => rfl
  | cons first rest =>
    cases rest with
    | nil => simp [replyAt, post, next]
    | cons second others =>
      have later : min (k + 1) (others.length + 1) = min k others.length + 1 := by omega
      simp [replyAt, post, next, later]

theorem body_mem_of_replyAt {w : Wire} {k : Nat} {v : Value} (h : w.replyAt k = .body v) :
    Reply.body v ∈ w.replies := by
  rw [replyAt, List.getD_eq_getElem?_getD] at h
  cases found : w.replies[min k (w.replies.length - 1)]? with
  | none => simp [found, noReply] at h
  | some reply =>
    rw [found, Option.getD_some] at h
    exact h ▸ List.mem_of_getElem? found

end Wire

/-! ## One request -/

namespace Tracker

def request (t : Tracker) (action : String) (payload : Value) : Request :=
  { url := t.actionUrl action, headers := [("PRIVATE-TOKEN", t.token)], payload := payload
    timeout := timeout }

/-- What follows from the reply to a request: its document, or the failure of the request. -/
def outcome (action : String) : Reply → Except TrackerError Value
  | .body v => .ok v
  | .failed message => .error (.failed action message)
  | .unreadable _ => .error (.noDocument action)
  | .tooDeep => .error .tooDeep

/-- Why no request can be made for some issues: their description cannot be written, or else the project has
no address. -/
def obstacle? (t : Tracker) (issues : List Issue) : Option TrackerError :=
  if ∀ i ∈ issues, i.Writable then
    if Text.holdsHalf t.projectId then some .noAddress else none
  else some (.format .unwritable)

/-- The request that opens the issue for a severity: its title has the number of issues, and its description
a section for each of them. -/
def Opens (t : Tracker) (group : String × List Issue) (r : Request) : Prop :=
  ∃ sections, GitLab.AreSections group.2 sections ∧
    r = t.request "issues" (.object
      [("title", .text ("Code Health: " ++ group.1 ++ " Priority Issues ("
          ++ toString group.2.length ++ " found)")),
       ("description", .text (GitLab.descriptionOf group.2.length sections)),
       ("labels", .text ("code-health,technical-debt,severity::" ++ group.1))])

variable {t : Tracker} {w : Wire} {severity : String} {group : List Issue} {e : TrackerError}

theorem post_eq (address : Text.holdsHalf t.projectId = false) (action : String) (payload : Value) :
    t.post w action payload =
      (outcome action (w.replyAt 0), (w.post (t.request action payload)).2) := by
  have replied : (w.post (t.request action payload)).1 = w.replyAt 0 := w.next_replies_fst
  rw [← replied]
  simp only [post, request, address, Bool.false_eq_true, if_false]
  split <;> rename_i sent <;> simp [sent, outcome]

theorem postForObject_eq (address : Text.holdsHalf t.projectId = false)
    (objects : ∀ v, w.replyAt 0 = .body v → ∃ fields, v = .object fields)
    (action : String) (payload : Value) :
    t.postForObject w action payload =
      (outcome action (w.replyAt 0), (w.post (t.request action payload)).2) := by
  rw [postForObject, post_eq address]
  cases reply : w.replyAt 0 with
  | body v =>
    obtain ⟨fields, rfl⟩ := objects v reply
    rfl
  | failed message => rfl
  | unreadable message => rfl
  | tooDeep => rfl

/-! ## One group -/

section oneGroup

variable (floats : ∀ i ∈ group, ∃ x, i.confidence = .float x) (rest : List (String × List Issue))

include floats

theorem createGroups_cons_of_obstacle (stuck : t.obstacle? group = some e) :
    t.createGroups w ((severity, group) :: rest) = (.error e, w) := by
  unfold obstacle? at stuck
  split at stuck
  · rename_i writable
    split at stuck
    · rename_i unaddressed
      cases stuck
      -- the description is written before the address is needed, so only the address is in the way
      obtain ⟨sections, -, described⟩ := GitLab.issueDescription_of_writable floats writable
      simp [createGroups, issuePayload, described, bind, Except.bind, pure, Except.pure, postForObject, post,
        unaddressed]
    · cases stuck
  · rename_i unwritable
    cases stuck
    simp [createGroups, issuePayload, GitLab.issueDescription_of_unwritable floats unwritable, bind,
      Except.bind]

/-- A group without obstacles is published by one request, and the reply decides how it goes on. -/
theorem createGroups_cons_of_free (free : t.obstacle? group = none)
    (objects : ∀ v, w.replyAt 0 = .body v → ∃ fields, v = .object fields) :
    ∃ r, t.Opens (severity, group) r ∧
      (∀ body, w.replyAt 0 = .body body → t.createGroups w ((severity, group) :: rest) =
        ((t.createGroups (w.post r).2 rest).1.map (body :: ·), (t.createGroups (w.post r).2 rest).2)) ∧
      (∀ e, outcome "issues" (w.replyAt 0) = .error e →
        t.createGroups w ((severity, group) :: rest) = (.error e, (w.post r).2)) := by
  unfold obstacle? at free
  split at free
  · rename_i writable
    have address : Text.holdsHalf t.projectId = false := by simpa using free
    obtain ⟨sections, numbered, described⟩ := GitLab.issueDescription_of_writable floats writable
    refine ⟨_, ⟨sections, numbered, rfl⟩, fun body arrives => ?_, fun e fails => ?_⟩
    · simp only [createGroups, issuePayload, described, bind, Except.bind, pure, Except.pure,
        postForObject_eq address objects, arrives, outcome]
      split <;> rename_i others <;> rw [others] <;> rfl
    · simp only [createGroups, issuePayload, described, bind, Except.bind, pure, Except.pure,
        postForObject_eq address objects, fails]
  · cases free

end oneGroup

/-! ## One group after the other -/

/-- The request for the group with `k` others before it is made, and answered by a document. -/
def Answered (t : Tracker) (w : Wire) (groups : List (String × List Issue)) (k : Nat) : Prop :=
  ∃ group body, groups[k]? = some group ∧ t.obstacle? group.2 = none ∧ w.replyAt k = .body body

/-- Where publishing is when the first `j` groups are done: a request for each of them has been sent, and
what is left is done by the wire `w'`. -/
structure Reaches (t : Tracker) (w : Wire) (groups : List (String × List Issue)) (j : Nat)
    (requests : List Request) (bodies : List Value) (w' : Wire) : Prop where
  opens : List.Forall₂ t.Opens (groups.take j) requests
  sent : w'.sent = w.sent ++ requests
  replies : bodies.map Reply.body = (List.range j).map w.replyAt
  later : ∀ k, w'.replyAt k = w.replyAt (j + k)
  rest : t.createGroups w groups =
    ((t.createGroups w' (groups.drop j)).1.map (bodies ++ ·), (t.createGroups w' (groups.drop j)).2)

variable {groups : List (String × List Issue)} {j : Nat} {requests : List Request} {bodies : List Value}
  {w' : Wire}

theorem reaches_zero (t : Tracker) (w : Wire) (groups : List (String × List Issue)) :
    t.Reaches w groups 0 [] [] w where
  opens := .nil
  sent := by simp
  replies := rfl
  later k := by rw [Nat.zero_add]
  rest := by
    rw [List.drop_zero]
    obtain ⟨failed | created, after⟩ := t.createGroups w groups <;> rfl

/-- One more request in front. -/
theorem Reaches.cons {g : String × List Issue} {r : Request} {body : Value} (opened : t.Opens g r)
    (arrives : w.replyAt 0 = .body body)
    (step : t.createGroups w (g :: groups) =
      ((t.createGroups (w.post r).2 groups).1.map (body :: ·), (t.createGroups (w.post r).2 groups).2))
    (reached : t.Reaches (w.post r).2 groups j requests bodies w') :
    t.Reaches w (g :: groups) (j + 1) (r :: requests) (body :: bodies) w' where
  opens := .cons opened reached.opens
  sent := by
    rw [reached.sent, Wire.sent_post, List.append_assoc]
    rfl
  replies := by
    -- the second request is the first one of the rest
    have shifted : (w.post r).2.replyAt = w.replyAt ∘ Nat.succ := funext (w.replyAt_post r)
    rw [List.map_cons, reached.replies, shifted, List.range_succ_eq_map, List.map_cons, arrives, List.map_map]
  later k := by
    rw [reached.later, Wire.replyAt_post]
    congr 1
    omega
  rest := by
    rw [step, reached.rest, List.drop_succ_cons]
    -- a failure further on drops all bodies, so putting one more in front changes nothing then
    cases (t.createGroups w' (groups.drop j)).1 <;> rfl

/-- As long as the requests are answered, publishing goes on. -/
theorem exists_reaches (floats : ∀ group ∈ groups, ∀ i ∈ group.2, ∃ x, i.confidence = .float x)
    (objects : ∀ k v, w.replyAt k = .body v → ∃ fields, v = .object fields)
    (answered : ∀ k < j, t.Answered w groups k) :
    ∃ requests bodies w', t.Reaches w groups j requests bodies w' := by
  -- by induction on the number of groups that are done, following the first step
  induction j generalizing w groups with
  | zero => exact ⟨[], [], w, t.reaches_zero w groups⟩
  | succ j ih =>
    cases groups with
    | nil =>
      obtain ⟨_, _, impossible, -⟩ := answered 0 (by omega)
      cases impossible
    | cons first groups =>
      obtain ⟨_, body, same, free, arrives⟩ := answered 0 (by omega)
      cases same
      obtain ⟨r, opened, step, -⟩ :=
        createGroups_cons_of_free (floats first (by simp)) groups free (objects 0)
      have behind : ∀ k < j, t.Answered (w.post r).2 groups k := by
        intro k inside
        obtain ⟨group, later, found, unhindered, reply⟩ := answered (k + 1) (by omega)
        exact ⟨group, later, found, unhindered, by rwa [Wire.replyAt_post]⟩
      obtain ⟨requests, bodies, w', reached⟩ := ih (fun group mem => floats group (by simp [mem]))
        (fun k v later => objects (k + 1) v (by rwa [← Wire.replyAt_post])) behind
      exact ⟨_, _, w', reached.cons opened arrives (step body arrives)⟩

/-- When all requests are answered, each group is published and the replies are handed back. -/
theorem Reaches.all (reached : t.Reaches w groups groups.length requests bodies w') :
    t.createGroups w groups = (.ok bodies, w') := by
  rw [reached.rest, List.drop_length, createGroups, Except.map, List.append_nil]

/-- A group that cannot be published ends the work, and so does a request that fails. -/
theorem Reaches.error {g : String × List Issue} {after : Wire}
    (reached : t.Reaches w groups j requests bodies w') (next : groups[j]? = some g)
    (stops : t.createGroups w' (g :: groups.drop (j + 1)) = (.error e, after)) :
    t.createGroups w groups = (.error e, after) := by
  obtain ⟨inside, rfl⟩ := List.getElem?_eq_some_iff.1 next
  rw [reached.rest, List.drop_eq_getElem_cons inside, stops]
  rfl

/-! ## Publishing -/

/-- Publishing a list of issues, group by group.

* Each group has the issues of one severity, in order of first appearance, and every issue is in one group.
* When there is a request for each group and all are answered, all are sent, one for each group, and the
  replies are handed back in order.
* The first request that is not answered by a document is the last one that is sent, and its failure is
  the result.  It has a text, unless an answer was there that is nested too deeply.
* The first group that no request can be made for ends the work before anything is sent for it. -/
structure Publishes (t : Tracker) (w : Wire) (issues : List Issue) (groups : List (String × List Issue)) :
    Prop where
  grouped : GroupedBySeverity issues groups
  partition : (groups.flatMap (·.2)).Perm issues
  counts : total (groups.map (·.2.length)) = issues.length
  succeeds : (∀ k < groups.length, t.Answered w groups k) →
    ∃ requests bodies w', t.createIssues w issues = (.ok bodies, w') ∧ w'.sent = w.sent ++ requests ∧
      List.Forall₂ t.Opens groups requests ∧
      bodies.map Reply.body = (List.range groups.length).map w.replyAt
  fails : ∀ j group, (∀ k < j, t.Answered w groups k) → groups[j]? = some group →
    t.obstacle? group.2 = none → (∀ body, w.replyAt j ≠ .body body) →
    ∃ e requests w', outcome "issues" (w.replyAt j) = .error e ∧ t.createIssues w issues = (.error e, w') ∧
      w'.sent = w.sent ++ requests ∧ List.Forall₂ t.Opens (groups.take (j + 1)) requests ∧
      (w.replyAt j ≠ .tooDeep → ∃ text, e.message? = some text)
  stops : ∀ j group e, (∀ k < j, t.Answered w groups k) → groups[j]? = some group →
    t.obstacle? group.2 = some e →
    ∃ requests w', t.createIssues w issues = (.error e, w') ∧ w'.sent = w.sent ++ requests ∧
      List.Forall₂ t.Opens (groups.take j) requests

theorem outcome_of_no_body {reply : Reply} (noBody : ∀ body, reply ≠ .body body) (action : String) :
    ∃ e, outcome action reply = .error e ∧ (reply ≠ .tooDeep → ∃ text, e.message? = some text) := by
  cases reply with
  | body v => exact absurd rfl (noBody v)
  | failed message => exact ⟨_, rfl, fun _ => ⟨_, rfl⟩⟩
  | unreadable message => exact ⟨_, rfl, fun _ => ⟨_, rfl⟩⟩
  | tooDeep => exact ⟨_, rfl, fun other => absurd rfl other⟩

/-- Publishing loses no issue and sends none twice, wherever it ends. -/
theorem createIssues_publishes {t : Tracker} {w : Wire} {issues : List Issue}
    (floats : ∀ i ∈ issues, ∃ x, i.confidence = .float x)
    (objects : ∀ v, Reply.body v ∈ w.replies → ∃ fields, v = .object fields) :
    t.Publishes w issues (groupBySeverity issues).entries := by
  have grouped := groupBySeverity_grouped issues
  have groupFloats : ∀ group ∈ (groupBySeverity issues).entries, ∀ i ∈ group.2,
      ∃ x, i.confidence = .float x := by
    intro group mem i inGroup
    rw [grouped.members group mem] at inGroup
    exact floats i (List.mem_filter.1 inGroup).1
  have objectAt : ∀ k v, w.replyAt k = .body v → ∃ fields, v = .object fields :=
    fun k v arrives => objects v (Wire.body_mem_of_replyAt arrives)
  refine ⟨grouped, flatMap_groupBySeverity_perm issues, total_length_groupBySeverity issues, ?_, ?_, ?_⟩
  · intro answered
    obtain ⟨requests, bodies, w', reached⟩ := exists_reaches groupFloats objectAt answered
    refine ⟨requests, bodies, w', reached.all, reached.sent, ?_, reached.replies⟩
    have opens := reached.opens
    rwa [List.take_length] at opens
  · intro j group answered next free noBody
    obtain ⟨requests, bodies, w', reached⟩ := exists_reaches groupFloats objectAt answered
    obtain ⟨e, failed, worded⟩ := outcome_of_no_body noBody "issues"
    have nextReply : w'.replyAt 0 = w.replyAt j := reached.later 0
    obtain ⟨r, opened, -, failure⟩ :=
      createGroups_cons_of_free (groupFloats group (List.mem_of_getElem? next)) _ free
        (nextReply ▸ objectAt j)
    refine ⟨e, requests ++ [r], _, failed, reached.error next (failure e (nextReply ▸ failed)), ?_, ?_, worded⟩
    · rw [Wire.sent_post, reached.sent, List.append_assoc]
    · rw [List.take_add_one, next]
      exact List.rel_append reached.opens (.cons opened .nil)
  · intro j group e answered next stuck
    obtain ⟨requests, bodies, w', reached⟩ := exists_reaches groupFloats objectAt answered
    exact ⟨requests, w', reached.error next (createGroups_cons_of_obstacle
      (groupFloats group (List.mem_of_getElem? next)) _ stuck), reached.sent, reached.opens⟩

/-- Three issues of two severities, one of which is not given; the second request is refused. -/
theorem createIssues_publishes_refused :
    let t : Tracker := { token := "t", projectId := "9" }
    let w : Wire := { replies := [.body (.object []), .failed "403"] }
    let issues : List Issue :=
      [{ severity := some "high", confidence := .float 1.0 },
       { severity := some "", confidence := .float 0.5 },
       { severity := some "high", confidence := .float 0.25 }]
    (∀ i ∈ issues, ∃ x, i.confidence = .float x) ∧ t.Publishes w issues (groupBySeverity issues).entries ∧
      ∃ w', t.createIssues w issues = (.error (.failed "issues" "403"), w') ∧ w'.sent.length = 2 := by
  intro t w issues
  have floats : ∀ i ∈ issues, ∃ x, i.confidence = .float x := by
    simp [issues]
  have published : t.Publishes w issues (groupBySeverity issues).entries :=
    createIssues_publishes floats (by simp [w])
  have first : ∀ k < 1, t.Answered w (groupBySeverity issues).entries k := by
    intro k before
    obtain rfl : k = 0 := by omega
    exact ⟨_, .object [], rfl, by decide +kernel, rfl⟩
  obtain ⟨e, requests, w', failed, ended, sent, opens, -⟩ :=
    published.fails 1 _ first rfl (by decide +kernel) (by simp [w, Wire.replyAt])
  cases failed
  exact ⟨floats, published, w', ended, by rw [sent]; exact opens.length_eq.symm⟩

/-- Publishing may fail without a text: a project has no address, a line number has too many digits, or an
answer is nested too deeply.  In the first two cases nothing is sent. -/
theorem createIssues_error_without_text :
    let t : Tracker := { token := "t", projectId := "9" }
    let w : Wire := { replies := [.body (.object [])] }
    let i : Issue := { severity := some "high", confidence := .float 1.5 }
    Tracker.createIssues { t with projectId := Text.ofPoints [0xd800] } w [i] = (.error .noAddress, w) ∧
      t.createIssues w [{ i with firstLine := some (Nat.pow 10 4300) }] =
        (.error (.format .unwritable), w) ∧
      (t.createIssues { replies := [.tooDeep] } [i]).1 = .error .tooDeep ∧
      ∀ e ∈ [.noAddress, .format .unwritable, .tooDeep], TrackerError.message? e = none := by
  intro t w i
  have floats : ∀ other ∈ [i], ∃ x, other.confidence = .float x :=
    List.forall_mem_singleton.2 ⟨1.5, rfl⟩
  refine ⟨createGroups_cons_of_obstacle floats [] (by decide +kernel), ?_, ?_,
    by simp [TrackerError.message?]⟩
  · exact createGroups_cons_of_obstacle (List.forall_mem_singleton.2 ⟨1.5, rfl⟩) [] (by decide +kernel)
  · have free : t.obstacle? [i] = none := by decide +kernel
    obtain ⟨r, -, -, failure⟩ :=
      createGroups_cons_of_free (w := { replies := [.tooDeep] }) floats [] free (by simp [Wire.replyAt])
    exact congrArg Prod.fst (failure .tooDeep rfl)

end Tracker

end RepoAudit

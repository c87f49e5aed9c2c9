import Mathlib.Data.List.Basic
import RepoAudit.Duplicate.Comparison
import RepoAudit.Proofs.Except
import RepoAudit.Proofs.Syntax.Tree

/-! # Which blocks are compared

The first blocks of a list of files are compared pair by pair.  The pairs are known from the blocks alone, by
their places: each pair of different files once, an earlier block before a later one.  One question is put
about each of them, so the k-th answer is about the k-th pair, whatever the answers say.

* `Source.blocks`, `allCodeBlocks_eq` – the blocks of a file in document order, and of several files;
* `PlacedPair`, `placedPairs`, `placedPairs_listing` – the pairs with their places, in lexicographic order;
* `Shows`, `shows_prompt` – what a question says about its pair;
* `Conversation` – questions put one after the other, each with its answer;
* `comparePairs_of_conversation` – what comes of a conversation about pairs;
* `compareAllBy_covers_pairs` – all of it together.
-/

namespace RepoAudit

open Syntax

/-! ## The blocks of a file -/

def Source.blocks (f : Source) : List CodeBlock :=
  f.root.preorder.filterMap fun c => (codeBlock? f c).toOption.join

theorem exists_codeBlock? {f : Source} {c : Cursor}
    (h : c.kind = "variable_declarator" → ∃ d, c.parent? = some d) : ∃ b, codeBlock? f c = .ok b := by
  unfold codeBlock?
  dsimp only
  split
  · exact ⟨_, rfl⟩
  · split
    · -- only a variable that holds a function asks for what is around it
      rename_i isVariable
      obtain ⟨declaration, parent⟩ := h (beq_iff_eq.1 isVariable)
      split
      · split
        · simp only [parent]
          exact ⟨_, rfl⟩
        · exact ⟨_, rfl⟩
      · exact ⟨_, rfl⟩
    · split
      · exact ⟨_, rfl⟩
      · exact ⟨_, rfl⟩

theorem codeBlocks_eq {f : Source} (root : f.tree.kind ≠ "variable_declarator") :
    codeBlocks f = .ok f.blocks := by
  have told : ∀ c ∈ f.root.walk, codeBlock? f c = .ok (codeBlock? f c).toOption.join := by
    intro c visited
    -- a node that the walk visits is the root or has a parent
    have block : ∃ b, codeBlock? f c = .ok b := by
      refine exists_codeBlock? fun isVariable => ?_
      rcases Relation.ReflTransGen.cases_tail (Cursor.mem_walk_iff.1 visited) with rfl | ⟨d, -, step⟩
      · exact absurd isVariable root
      · exact ⟨d, Cursor.parent?_of_mem_children (Cursor.mem_namedChildren.1 step).1⟩
    obtain ⟨b, block⟩ := block
    rw [block]
    rfl
  rw [codeBlocks, mapM_eq_ok told, Except.map, List.filterMap_map, Cursor.walk_eq_preorder]
  rfl

theorem allCodeBlocks_eq {sources : List Source}
    (parsed : ∀ f ∈ sources, f.tree.kind ≠ "variable_declarator") :
    allCodeBlocks sources = .ok (sources.flatMap Source.blocks) := by
  rw [allCodeBlocks, mapM_eq_ok fun f mem => codeBlocks_eq (parsed f mem)]
  rfl

namespace Duplicate

/-! ## Pairs -/

structure PlacedPair where
  first : Nat
  second : Nat
  a : CodeBlock
  b : CodeBlock

/-- The pairs of blocks of different files, in lexicographic order of their places. -/
structure IsListing (bs : List CodeBlock) (ps : List PlacedPair) : Prop where
  mem : ∀ p, p ∈ ps ↔ p.first < p.second ∧ bs[p.first]? = some p.a ∧ bs[p.second]? = some p.b ∧
    p.a.path ≠ p.b.path
  order : ps.Pairwise fun p q => p.first < q.first ∨ p.first = q.first ∧ p.second < q.second

/-- The same pair in a list that has one more block in front. -/
def PlacedPair.behind (p : PlacedPair) : PlacedPair :=
  { p with first := p.first + 1, second := p.second + 1 }

def placedPairs : List CodeBlock → List PlacedPair
  | [] => []
  | a :: rest =>
    ((rest.zipIdx.filter fun e => a.path != e.1.path).map fun e => ⟨0, e.2 + 1, a, e.1⟩)
      ++ (placedPairs rest).map PlacedPair.behind

theorem pairs_eq (bs : List CodeBlock) : pairs bs = (placedPairs bs).map fun p => (p.a, p.b) := by
  induction bs with
  | nil => rfl
  | cons a rest ih =>
    have later : rest.filter (fun b => a.path != b.path) =
        (rest.zipIdx.filter fun e => a.path != e.1.path).map (·.1) := by
      have placed : rest = rest.zipIdx.map (·.1) := (List.zipIdx_map_fst 0 rest).symm
      conv_lhs => rw [placed, List.filter_map]
      rfl
    rw [pairs, placedPairs, ih, later, List.map_append, List.map_map, List.map_map, List.map_map]
    rfl

theorem mem_placedPairs {bs : List CodeBlock} {p : PlacedPair} :
    p ∈ placedPairs bs ↔ p.first < p.second ∧ bs[p.first]? = some p.a ∧ bs[p.second]? = some p.b ∧
      p.a.path ≠ p.b.path := by
  induction bs generalizing p with
  | nil => simp [placedPairs]
  | cons c rest ih =>
    obtain ⟨first, second, a, b⟩ := p
    simp only [placedPairs, List.mem_append, List.mem_map, List.mem_filter,
      List.mem_zipIdx_iff_getElem?, bne_iff_ne]
    constructor
    · -- a pair starts at the block in front, or both of its blocks stand behind that
      rintro (⟨⟨b', place⟩, ⟨found, other⟩, same⟩ | ⟨q, listed, same⟩)
      · cases same
        simpa using ⟨found, other⟩
      · cases same
        simpa using ih.1 listed
    · rintro ⟨before, found, found', other⟩
      obtain ⟨place, rfl⟩ : ∃ place, second = place + 1 := ⟨second - 1, by omega⟩
      rw [List.getElem?_cons_succ] at found'
      cases first with
      | zero =>
        rw [List.getElem?_cons_zero, Option.some.injEq] at found
        subst found
        exact .inl ⟨(b, place), ⟨found', other⟩, rfl⟩
      | succ first =>
        rw [List.getElem?_cons_succ] at found
        exact .inr ⟨⟨first, place, a, b⟩, ih.2 ⟨Nat.lt_of_succ_lt_succ before, found, found', other⟩, rfl⟩

theorem pairwise_zipIdx (bs : List CodeBlock) : bs.zipIdx.Pairwise fun e e' => e.2 < e'.2 := by
  rw [← List.pairwise_map (f := Prod.snd), List.zipIdx_map_snd]
  exact List.pairwise_lt_range' ..

theorem placedPairs_listing (bs : List CodeBlock) : IsListing bs (placedPairs bs) where
  mem _ := mem_placedPairs
  order := by
    induction bs with
    | nil => exact .nil
    | cons a rest ih =>
      refine List.pairwise_append.2 ⟨?_, ?_, ?_⟩
      · -- all of them start at the first block, so the places of the second one decide
        refine ((pairwise_zipIdx rest).filter _).map _ fun e e' before => ?_
        exact .inr ⟨rfl, Nat.succ_lt_succ before⟩
      · refine ih.map _ fun p q before => ?_
        simp only [PlacedPair.behind]
        omega
      · -- a pair that starts at the first block comes before all that start later
        intro p atFirst q later
        obtain ⟨e, -, rfl⟩ := List.mem_map.1 atFirst
        obtain ⟨q', -, rfl⟩ := List.mem_map.1 later
        exact .inl (Nat.succ_pos _)

/-! ## Questions -/

def questionLines (p : PlacedPair) : List String :=
  ["Compare these two code blocks for semantic similarity.",
   "",
   "Block 1 (" ++ p.a.path ++ "):",
   Text.fence,
   Text.takeStart p.a.code maxBlockChars,
   Text.fence,
   "",
   "Block 2 (" ++ p.b.path ++ "):",
   Text.fence,
   Text.takeStart p.b.code maxBlockChars,
   Text.fence,
   "",
   ""]

/-- A question that shows both blocks of a pair: the paths, and what the code of each starts with. -/
def Shows (question : Prompt) (p : PlacedPair) : Prop :=
  ∃ rest, question.text = "\n".intercalate (questionLines p) ++ rest

theorem shows_prompt (p : PlacedPair) : Shows (prompt p.a p.b) p := by
  have blocks (rest : String) : "Compare these two code blocks for semantic similarity.\n\n" ++
      (shown "1" p.a ++ (shown "2" p.b ++ rest)) = "\n".intercalate (questionLines p) ++ rest := by
    unfold shown questionLines
    rw [← String.toList_inj]
    simp
  unfold Shows prompt
  dsimp only
  -- the eight parts of the text, bracketed to the right
  iterate 6 rw [String.append_assoc]
  exact ⟨_, blocks _⟩

/-! ## Conversations -/

variable {σ : Type} {ask : Answerer σ} {s s' : σ}

/-- Questions put one after the other, each with its answer. -/
inductive Conversation (ask : Answerer σ) : σ → List (Prompt × Value) → σ → Prop
  | done (s : σ) : Conversation ask s [] s
  | turn {s s' s'' : σ} {question : Prompt} {answer : Value} {rest : List (Prompt × Value)}
      (answered : ask s question = (.ok answer, s')) (others : Conversation ask s' rest s'') :
      Conversation ask s ((question, answer) :: rest) s''

/-- The finding that an answer about two blocks makes, if its score is above the threshold. -/
def reported? (p : PlacedPair) (answer : Value) : Option DuplicateFinding :=
  match judge answer with
  | .ok (some judgement) =>
    if threshold < judgement.score then
      some { path1 := p.a.path, path2 := p.b.path, similarity := .float judgement.score
             block1 := p.a.code, block2 := p.b.code, recommendation := judgement.recommendation }
    else none
  | _ => none

theorem reported?_of_judge {answer : Value} {judgement : Option Judgement}
    (judged : judge answer = .ok judgement) (p : PlacedPair) :
    reported? p answer = finding? (p.a, p.b) judgement := by
  rw [reported?, judged]
  cases judgement <;> rfl

/-- The question about a pair, with the answer to it. -/
def exchange (e : PlacedPair × Value) : Prompt × Value :=
  (prompt e.1.a e.1.b, e.2)

/-- A conversation about pairs, in which every answer can be judged, gives the findings of its answers. -/
theorem comparePairs_of_conversation {talk : List (PlacedPair × Value)}
    (held : Conversation ask s (talk.map exchange) s')
    (judged : ∀ e ∈ talk, ∃ judgement, judge e.2 = .ok judgement) :
    comparePairs ask s (talk.map fun e => (e.1.a, e.1.b)) =
      (.ok (talk.filterMap fun e => reported? e.1 e.2), s') := by
  induction talk generalizing s with
  | nil =>
    cases held
    rfl
  | cons e rest ih =>
    cases held with
    | @turn _ next _ _ _ _ answered others =>
      obtain ⟨judgement, judgedFirst⟩ := judged e (by simp)
      have later := ih others fun e' mem => judged e' (by simp [mem])
      have first : compare ask s e.1.a e.1.b = (.ok judgement, next) := by
        rw [compare, answered]
        simp only [judgedFirst]
      -- the first pair adds its own finding, if any, in front of those of the others
      simp only [List.map_cons, comparePairs, first, later]
      rw [← reported?_of_judge judgedFirst e.1, List.filterMap_cons]
      cases reported? e.1 e.2 <;> rfl

/-- The same answers, with a record of the questions that are put. -/
def recorded (ask : Answerer σ) : Answerer (σ × List Prompt) :=
  fun state question =>
    ((ask state.1 question).1, (ask state.1 question).2, state.2 ++ [question])

theorem Conversation.recorded {talk : List (Prompt × Value)} (held : Conversation ask s talk s')
    (before : List Prompt) :
    Conversation (recorded ask) (s, before) talk (s', before ++ talk.map (·.1)) := by
  induction held generalizing before with
  | done s => simpa using Conversation.done (s, before)
  | @turn s next s' question answer rest answered _ ih =>
    have first : Duplicate.recorded ask (s, before) question =
        (.ok answer, next, before ++ [question]) := by
      simp [Duplicate.recorded, answered]
    exact .turn first (by simpa using ih (before ++ [question]))

/-! ## All comparisons -/

/-- The blocks that are compared: the first ones of all files together. -/
def comparedBlocks (sources : List Source) : List CodeBlock :=
  (sources.flatMap Source.blocks).take maxBlocks

theorem compareAllBy_eq (ask : Answerer σ) (s : σ) {sources : List Source}
    (parsed : ∀ f ∈ sources, f.tree.kind ≠ "variable_declarator") :
    compareAllBy ask s sources =
      comparePairs ask s ((placedPairs (comparedBlocks sources)).map fun p => (p.a, p.b)) := by
  rw [compareAllBy, allCodeBlocks_eq parsed, ← pairs_eq]
  rfl

theorem eq_of_reported? {p : PlacedPair} {answer : Value} {d : DuplicateFinding}
    (h : reported? p answer = some d) :
    d.path1 = p.a.path ∧ d.path2 = p.b.path ∧ d.block1 = p.a.code ∧ d.block2 = p.b.code := by
  unfold reported? at h
  split at h
  · split at h
    · cases h
      exact ⟨rfl, rfl, rfl, rfl⟩
    · cases h
  · cases h

/-- Whoever answers, one question is put about each pair of compared blocks of different files, in the order
of their places, and no other question; it shows both blocks.  When all of the answers can be judged, the
findings are those of the pairs whose own answer has a score above the threshold, with all of their code.
(At the root of a file that was parsed stands a program, never a variable.) -/
theorem compareAllBy_covers_pairs {σ : Type} {ask : Answerer σ} {s s' : σ} {sources : List Source}
    {talk : List (PlacedPair × Value)}
    (parsed : ∀ f ∈ sources, f.tree.kind ≠ "variable_declarator")
    (about : talk.map (·.1) = placedPairs (comparedBlocks sources))
    (held : Conversation ask s (talk.map exchange) s')
    (judged : ∀ e ∈ talk, ∃ judgement, judge e.2 = .ok judgement) :
    IsListing (comparedBlocks sources) (talk.map (·.1)) ∧
      ∃ findings, compareAllBy ask s sources = (.ok findings, s') ∧
        compareAllBy (recorded ask) (s, []) sources =
          (.ok findings, s', talk.map fun e => prompt e.1.a e.1.b) ∧
        (∀ e ∈ talk, Shows (prompt e.1.a e.1.b) e.1) ∧
        findings = talk.filterMap (fun e => reported? e.1 e.2) ∧
        ∀ d ∈ findings, d.path1 ≠ d.path2 ∧ ∃ p ∈ talk.map (·.1),
          d.path1 = p.a.path ∧ d.path2 = p.b.path ∧ d.block1 = p.a.code ∧ d.block2 = p.b.code := by
  have listing : IsListing (comparedBlocks sources) (talk.map (·.1)) := by
    rw [about]
    exact placedPairs_listing _
  have pairs : (placedPairs (comparedBlocks sources)).map (fun p => (p.a, p.b)) =
      talk.map fun e => (e.1.a, e.1.b) := by
    rw [← about, List.map_map]
    rfl
  have record : Conversation (recorded ask) (s, []) (talk.map exchange)
      (s', talk.map fun e => prompt e.1.a e.1.b) := by
    simpa [exchange, Function.comp_def] using held.recorded []
  refine ⟨listing, _, ?_, ?_, fun e _ => shows_prompt e.1, rfl, ?_⟩
  · rw [compareAllBy_eq ask s parsed, pairs, comparePairs_of_conversation held judged]
  · rw [compareAllBy_eq _ _ parsed, pairs, comparePairs_of_conversation record judged]
  · intro d found
    obtain ⟨e, mem, reported⟩ := List.mem_filterMap.1 found
    have listed : e.1 ∈ talk.map (·.1) := List.mem_map_of_mem mem
    obtain ⟨path1, path2, block1, block2⟩ := eq_of_reported? reported
    refine ⟨?_, e.1, listed, path1, path2, block1, block2⟩
    rw [path1, path2]
    exact ((listing.mem e.1).1 listed).2.2.2

/-- The file `a.ts` with the text `function f() {} class A {}`. -/
def firstFile : Source where
  path := "a.ts"
  language := "typescript"
  bytes := Text.Utf8.encode "function f() \x7b\x7d class A \x7b\x7d"
  tree := ⟨"program", true, none, 0, 26, [
    ⟨"function_declaration", true, none, 0, 15, [⟨"identifier", true, some "name", 9, 10, []⟩]⟩,
    ⟨"class_declaration", true, none, 16, 26, [⟨"type_identifier", true, some "name", 22, 23, []⟩]⟩]⟩

/-- The file `b.ts` with the text `function g() {}`. -/
def secondFile : Source where
  path := "b.ts"
  language := "typescript"
  bytes := Text.Utf8.encode "function g() \x7b\x7d"
  tree := ⟨"program", true, none, 0, 15, [
    ⟨"function_declaration", true, none, 0, 15, [⟨"identifier", true, some "name", 9, 10, []⟩]⟩]⟩

/-- The blocks of one file are not compared with each other.  The service finds the two functions alike and
does not answer when it is asked a second time. -/
theorem compareAllBy_covers_pairs_twoFiles :
    let service : Provider := { kind := .ollama, model := "", apiKey := "", endpoint := "" }
    let alike : Value := .text "\x7b\"similarity\": 90\x7d"
    let w : Wire := { replies := [.body (.object [("response", alike)]), .failed ""] }
    let sources := [firstFile, secondFile]
    (∀ f ∈ sources, f.tree.kind ≠ "variable_declarator") ∧
      ∃ p q w' findings, placedPairs (comparedBlocks sources) = [p, q] ∧
        (p.first, p.second, q.first, q.second) = (0, 2, 1, 2) ∧
        Conversation service.generate w [exchange (p, alike), exchange (q, .null)] w' ∧
        compareAll service w sources = (.ok findings, w') ∧ w'.sent.length = 2 ∧ findings.length = 1 := by
  intro service alike w sources
  have parsed : ∀ f ∈ sources, f.tree.kind ≠ "variable_declarator" := by
    simp [sources, firstFile, secondFile]
  have places : (placedPairs (comparedBlocks sources)).map (fun p => (p.first, p.second)) =
      [(0, 2), (1, 2)] := by
    decide +kernel
  obtain ⟨p, q, both⟩ : ∃ p q, placedPairs (comparedBlocks sources) = [p, q] :=
    List.length_eq_two.1 (by simpa using congrArg List.length places)
  have held : Conversation service.generate w ([(p, alike), (q, .null)].map exchange) _ :=
    .turn rfl (.turn rfl (.done _))
  have judged : ∀ e ∈ [(p, alike), (q, .null)], ∃ judgement, judge e.2 = .ok judgement := by
    have readable : (judge alike).isOk = true := by decide +kernel
    cases said : judge alike with
    | error e => simp [said, Except.isOk, Except.toBool] at readable
    | ok judgement => simpa [said] using ⟨none, rfl⟩
  have about : [(p, alike), (q, .null)].map (·.1) = placedPairs (comparedBlocks sources) := both.symm
  obtain ⟨-, findings, found, -⟩ := compareAllBy_covers_pairs parsed about held judged
  have ended : compareAll service w sources = (.ok findings, _) := found
  have one : (compareAll service w sources).1.toOption.map List.length = some 1 := by decide +kernel
  rw [both] at places
  refine ⟨parsed, p, q, _, findings, both, ?_, held, ended, rfl, ?_⟩
  · simpa [and_assoc] using places
  · rw [ended] at one
    exact Option.some.inj one

end Duplicate

end RepoAudit

import RepoAudit.Duplicate.Block
import RepoAudit.Llm.Answer
import RepoAudit.Llm.Provider
import RepoAudit.Text.Fence
import RepoAudit.Text.Split
import RepoAudit.Value.Convert
import RepoAudit.Value.Printer

/-! # Comparing code blocks

Blocks of different files are compared pair by pair by a language model.  The first blocks of a
repository are compared only, so that the number of questions stays bounded.

* `Duplicate.prompt` – the question about two blocks;
* `Duplicate.judge` – what an answer says;
* `Duplicate.pairs` – the pairs that are compared;
* `Duplicate.compareAllBy` – the findings, by anyone who answers questions;
* `Duplicate.compareAll` – the findings, by a service.
-/

namespace RepoAudit

structure DuplicateFinding where
  path1 : String
  path2 : String
  similarity : Number
  block1 : String
  block2 : String
  recommendation : String
  deriving Inhabited

inductive CompareError where
  | block (e : BlockError)
  | generate (e : GenerateError)
  | answer (e : AnswerError)
  /-- The similarity is out of range. -/
  | overflow
  deriving Repr, DecidableEq

namespace Duplicate

def findingValue (d : DuplicateFinding) : Value :=
  .object
    [("file1", .text d.path1), ("file2", .text d.path2), ("similarity", .ofNumber d.similarity),
     ("code_block1", .text d.block1), ("code_block2", .text d.block2),
     ("recommendation", .text d.recommendation)]

def maxBlocks : Nat := 50

def maxBlockChars : Nat := 2000

/-- A similarity above this makes a finding. -/
def threshold : Float := 0.75

def maxTokens : Int := 1500

def shown (number : String) (b : CodeBlock) : String :=
  "Block " ++ number ++ " (" ++ b.path ++ "):\n" ++ Text.fence ++ "\n"
    ++ Text.takeStart b.code maxBlockChars ++ "\n" ++ Text.fence ++ "\n\n"

def prompt (a b : CodeBlock) : Prompt :=
  { text := "Compare these two code blocks for semantic similarity.\n\n" ++ shown "1" a ++ shown "2" b
      ++ "Provide:\n1. Similarity score (0-100)\n"
      ++ "2. Are they duplicates or just similar patterns?\n"
      ++ "3. Recommendation for refactoring if duplicates\n\nRespond in valid JSON only:\n"
      ++ "\x7b\"similarity\": <number>, \"is_duplicate\": <boolean>, "
      ++ "\"recommendation\": \"<string>\"\x7d"
    maxTokens := maxTokens }

/-- What a comparison says: a similarity from zero to one, and what to do. -/
structure Judgement where
  score : Float
  recommendation : String
  deriving Inhabited

/-- The similarity in an answer, which counts in percent; zero when it is absent or no number. -/
def scoreIn (document : Value) : Except CompareError Float :=
  let v := document.getD "similarity"
  match (if v.truthy then v else .int 0).toFloat with
  | .ok x => .ok (x / 100)
  | .error .overflow => .error .overflow
  | .error _ => .ok 0.0

/-- What an answer says; nothing when there is no answer. -/
def judge (answer : Value) : Except CompareError (Option Judgement) :=
  match answer with
  | .null => .ok none
  | answer =>
    match extractDocument .object answer with
    | .error e => .error (.answer e)
    | .ok (some (.object fields)) => do
      let document := Value.object fields
      let score ← scoreIn document
      let remark := document.getD "recommendation"
      return some ⟨score, if remark.truthy then remark.display else "Review manually"⟩
    | .ok _ => .ok (some ⟨0.0, "Unable to analyze"⟩)

/-- Someone who answers questions, which may change them. -/
abbrev Answerer (σ : Type) := σ → Prompt → Except GenerateError Value × σ

variable {σ : Type}

def compare (ask : Answerer σ) (s : σ) (a b : CodeBlock) :
    Except CompareError (Option Judgement) × σ :=
  match ask s (prompt a b) with
  | (.ok answer, s) => (judge answer, s)
  | (.error e, s) => (.error (.generate e), s)

/-- The pairs of an earlier and a later block of different files, in order. -/
def pairs : List CodeBlock → List (CodeBlock × CodeBlock)
  | [] => []
  | a :: rest => ((rest.filter fun b => a.path != b.path).map fun b => (a, b)) ++ pairs rest

def finding? (pair : CodeBlock × CodeBlock) (judgement : Option Judgement) :
    Option DuplicateFinding :=
  judgement.bind fun j =>
    if threshold < j.score then
      some { path1 := pair.1.path, path2 := pair.2.path, similarity := .float j.score
             block1 := pair.1.code, block2 := pair.2.code, recommendation := j.recommendation }
    else none

/-- Compares pairs in turn and collects the findings; a comparison that fails ends everything. -/
def comparePairs (ask : Answerer σ) (s : σ) :
    List (CodeBlock × CodeBlock) → Except CompareError (List DuplicateFinding) × σ
  | [] => (.ok [], s)
  | pair :: rest =>
    match compare ask s pair.1 pair.2 with
    | (.error e, s) => (.error e, s)
    | (.ok judgement, s) =>
      match comparePairs ask s rest with
      | (.ok findings, s) => (.ok ((finding? pair judgement).toList ++ findings), s)
      | (.error e, s) => (.error e, s)

def compareAllBy (ask : Answerer σ) (s : σ) (sources : List Source) :
    Except CompareError (List DuplicateFinding) × σ :=
  match allCodeBlocks sources with
  | .ok blocks => comparePairs ask s (pairs (blocks.take maxBlocks))
  | .error e => (.error (.block e), s)

def compareAll (p : Provider) (w : Wire) (sources : List Source) :
    Except CompareError (List DuplicateFinding) × Wire :=
  compareAllBy p.generate w sources

end Duplicate

end RepoAudit

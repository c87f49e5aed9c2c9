import RepoAudit.Issue.Basic

/-! # Issues that are written and read again

An issue is decoded field by field, each by a conversion of its own: a text is taken as it is displayed, a
line is a whole number other than zero, and a remark is anything that says something.  Every conversion
leaves alone what it has made itself, so an issue that was decoded comes back when its own fields are decoded.
Only a negative zero does not come back as it was: a confidence that says nothing is read as zero, which is
the same number.

* `Issue.Settled` – an issue whose fields the conversions leave alone, its confidence apart;
* `Issue.settled_of_decode` – what was decoded is settled;
* `Issue.decode_value` – what becomes of the fields of a settled issue;
* `Issue.decode_value_of_decode` – reading an issue that was written changes nothing.
-/

namespace RepoAudit

namespace Issue

/-! ## Single fields -/

theorem remark_remark (v : Value) : remark (remark v) = remark v := by
  have null : Value.null.truthy = false := rfl
  cases full : v.truthy with
  | true => simp [remark, full]
  | false => simp [remark, full, null]

/-- A line that was read is not zero. -/
theorem ne_zero_of_lineIn {data : Value} {key : String} {line : Option Int}
    (h : lineIn data key = .ok line) : line ≠ some 0 := by
  unfold lineIn at h
  split at h
  · cases h
    simp
  · split at h
    · cases h
      split <;> simp_all
    · cases h
    · cases h
      simp

theorem lineIn_ofInt? {data : Value} {key : String} {line : Option Int}
    (stored : data.field? key = some (.ofInt? line)) (nonzero : line ≠ some 0) :
    lineIn data key = .ok line := by
  cases line with
  | none => simp [lineIn, stored, Value.ofInt?, Value.toWhole]
  | some n =>
    have other : n ≠ 0 := by simpa using nonzero
    simp [lineIn, stored, Value.ofInt?, Value.toWhole, other]

/-- What a stored confidence is read as: a zero of either sign says nothing and counts as zero. -/
def reread (x : Float) : Float :=
  if x != 0 then x else 0

theorem confidenceIn_float {data : Value} {x : Float}
    (stored : data.field? "confidence" = some (.float x)) : confidenceIn data = .ok (reread x) := by
  have zero : (Value.int 0).toFloat = .ok 0 := by rfl
  cases nonzero : x != 0 with
  | true => simp [confidenceIn, Value.getD, stored, Value.truthy, nonzero, Value.toFloat, reread]
  | false => simp [confidenceIn, Value.getD, stored, Value.truthy, nonzero, zero, reread]

theorem reread_reread (x : Float) : reread (reread x) = reread x := by
  have zero : ((0 : Float) != 0) = false := by decide
  cases nonzero : x != 0 with
  | true => simp [reread, nonzero]
  | false => simp [reread, nonzero, zero]

/-- Reading a number again gives the same number. -/
theorem eq_or_beq_reread (x : Float) : reread x = x ∨ (x == reread x) = true := by
  cases nonzero : x != 0 with
  | true => exact .inl (by simp [reread, nonzero])
  | false =>
    -- only here the value may change: a negative zero becomes zero
    have zero : reread x = 0 := by simp [reread, nonzero]
    exact .inr (by simpa [zero, bne] using nonzero)

/-! ## Whole issues -/

/-- An issue whose fields, the confidence apart, decoding leaves as they are. -/
structure Settled (i : Issue) : Prop where
  named : ∃ kind severity, i.kind = some kind ∧ i.severity = some severity
  firstLine : i.firstLine ≠ some 0
  lastLine : i.lastLine ≠ some 0
  path : remark i.path = i.path
  language : remark i.language = i.language
  snippet : remark i.snippet = i.snippet
  buildTimeSaved : remark i.buildTimeSaved = i.buildTimeSaved
  sizeReduction : remark i.sizeReduction = i.sizeReduction

theorem settled_of_decode {data : Value} {i : Issue} (h : decode data = .ok i) :
    i.Settled ∧ ∃ x, i.confidence = .float x := by
  cases data with
  | object fields =>
    rw [decode, ofFields] at h
    -- the confidence and the two lines are all that can fail
    cases confidence : confidenceIn (.object fields) with
    | error e => simp [confidence, bind, Except.bind] at h
    | ok x =>
      cases first : lineIn (.object fields) "line_start" with
      | error e => simp [confidence, first, bind, Except.bind] at h
      | ok firstLine =>
        cases last : lineIn (.object fields) "line_end" with
        | error e => simp [confidence, first, last, bind, Except.bind] at h
        | ok lastLine =>
          simp only [confidence, first, last, bind, Except.bind, pure, Except.pure,
            Except.ok.injEq] at h
          subst h
          exact ⟨⟨⟨_, _, rfl, rfl⟩, ne_zero_of_lineIn first, ne_zero_of_lineIn last, remark_remark _,
            remark_remark _, remark_remark _, remark_remark _, remark_remark _⟩, x, rfl⟩
  | _ => cases h

/-- The fields of a settled issue are decoded to the issue itself, with its confidence read again. -/
theorem decode_value {i : Issue} {x : Float} (settled : i.Settled) (confidence : i.confidence = .float x) :
    decode i.value = .ok { i with confidence := .float (reread x) } := by
  obtain ⟨⟨kind, severity, hasKind, hasSeverity⟩, firstLine, lastLine, path, language, snippet,
    buildTimeSaved, sizeReduction⟩ := settled
  have readConfidence : confidenceIn i.value = .ok (reread x) :=
    confidenceIn_float (by simp [value, Value.field?, Value.lookup, confidence])
  have readFirst : lineIn i.value "line_start" = .ok i.firstLine :=
    lineIn_ofInt? (by simp [value, Value.field?, Value.lookup]) firstLine
  have readLast : lineIn i.value "line_end" = .ok i.lastLine :=
    lineIn_ofInt? (by simp [value, Value.field?, Value.lookup]) lastLine
  -- the other fields are taken as they are, which the settled issue allows
  have fields : decode i.value = ofFields i.value := rfl
  rw [fields, ofFields, readConfidence, readFirst, readLast]
  cases i
  simp_all [value, textIn, Value.field?, Value.lookup, Value.getD, Value.ofText?, Value.display, bind,
    Except.bind, pure, Except.pure]

/-- Two issues are the same: eleven fields are, and so are the confidences, as values or as numbers.  As
a value, something that is no number is the same as itself; as numbers, the two zeros are. -/
structure Same (i j : Issue) : Prop where
  confidence : i.confidence = j.confidence ∨
    ∃ x y, i.confidence = .float x ∧ j.confidence = .float y ∧ (x == y) = true
  others : { i with confidence := j.confidence } = j

/-- Whatever an issue was decoded from, decoding its own fields succeeds and gives the same issue; and
from then on the very same. -/
theorem decode_value_of_decode {data : Value} {i : Issue} (h : decode data = .ok i) :
    ∃ j, decode i.value = .ok j ∧ i.Same j ∧ decode j.value = .ok j := by
  obtain ⟨settled, x, confidence⟩ := settled_of_decode h
  refine ⟨_, decode_value settled confidence, ⟨?_, rfl⟩, ?_⟩
  · rcases eq_or_beq_reread x with same | equal
    · exact .inl (by rw [confidence, same])
    · exact .inr ⟨x, reread x, confidence, rfl, equal⟩
  · have again : Settled { i with confidence := .float (reread x) } := { settled with }
    rw [decode_value again rfl, reread_reread]

/-- An object none of whose fields holds what an issue has there: no text for the type, a text for the
confidence, a truth value and a fraction for the lines, and remarks that are empty or no number. -/
def oddFields : Value :=
  .object
    [("type", .null), ("confidence", .text " -0.0 "), ("description", .list [.int 1, .text "x"]),
     ("line_start", .bool true), ("line_end", .float 0.5), ("file_path", .list []),
     ("language", .float (0.0 / 0.0))]

theorem decode_value_of_decode_oddFields :
    ∃ i j, decode oddFields = .ok i ∧ i.kind = some "None" ∧ i.firstLine = some 1 ∧
      i.lastLine = none ∧ i.confidence = .float (-0.0) ∧ decode i.value = .ok j ∧ i.Same j ∧
        decode j.value = .ok j := by
  have decoded : ∃ i, decode oddFields = .ok i ∧ i.kind = some "None" ∧ i.firstLine = some 1 ∧
      i.lastLine = none ∧ i.confidence = .float (-0.0) :=
    ⟨_, rfl, rfl, rfl, rfl, rfl⟩
  obtain ⟨i, decoded, kind, first, last, confidence⟩ := decoded
  obtain ⟨j, readAgain, same, settled⟩ := decode_value_of_decode decoded
  exact ⟨i, j, decoded, kind, first, last, confidence, readAgain, same, settled⟩

end Issue

end RepoAudit

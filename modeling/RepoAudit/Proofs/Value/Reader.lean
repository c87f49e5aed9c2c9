import Mathlib.Data.List.TakeWhile
import RepoAudit.Proofs.Except
import RepoAudit.Value.Reader

/-! # Reading on behind a document

A reader that has come to the end of a document does not look further: with more text behind it, it reads
the same and leaves more.  This needs care in two places.  A number ends where something stands that cannot
belong to it, so a reader of numbers does look at the next character; inside a list or an object that is
a blank, a comma or a bracket.  And half a pair in a text looks for its other half.

* `Marked` – what is left starts with something that ends a number;
* `readText_append`, `readNumber_append` – texts and numbers with more text behind them;
* `ReadCase` – one step of the reader of values, case by case;
* `readsOn` – values, items and fields with more text behind them, by induction on the fuel;
* `parse_append` – a document in brackets with more text behind it is malformed.
-/

namespace RepoAudit.Value

open Decimal

/-! ## Texts -/

/-- Where a reader gets to the end of a text, the text is not cut off inside an escape. -/
theorem exists_of_readText_escape {read cs rest extra tail : List Char} {s : String} {a b c d : Char}
    (h : readText read cs = .ok (s, rest))
    (escape : cs ++ extra = '\\' :: 'u' :: a :: b :: c :: d :: tail) :
    ∃ tail', cs = '\\' :: 'u' :: a :: b :: c :: d :: tail' := by
  have unknown : simpleEscape? 'u' = none := rfl
  match cs, h, escape with
  | [], h, _ => simp [readText] at h
  | ['\\'], h, _ => simp [readText] at h
  | ['\\', 'u'], h, _ => simp [readText, unknown] at h
  | ['\\', 'u', _], h, _ => simp [readText, unknown] at h
  | ['\\', 'u', _, _], h, _ => simp [readText, unknown] at h
  | ['\\', 'u', _, _, _], h, _ => simp [readText, unknown] at h
  | _ :: _ :: _ :: _ :: _ :: _ :: _, _, escape =>
    simp only [List.cons_append, List.cons.injEq] at escape
    obtain ⟨rfl, rfl, rfl, rfl, rfl, rfl, rfl⟩ := escape
    exact ⟨_, rfl⟩

/-- A text ends with its closing quote, whatever stands behind it. -/
theorem readText_append {read cs rest : List Char} {s : String} (h : readText read cs = .ok (s, rest))
    (extra : List Char) : readText read (cs ++ extra) = .ok (s, rest ++ extra) := by
  fun_induction readText read cs with
  | case1 => cases h
  | case2 read cs =>
    cases h
    rw [List.cons_append, readText]
  | case3 => cases h
  | case4 read a b c d n unit a' b' c' d' cs n' unit' pair ih =>
    simpa [readText, unit, unit', pair] using ih h
  | case5 read a b c d n unit a' b' c' d' cs n' unit' single ih =>
    simp only [List.cons_append]
    rw [readText]
    simp only [unit, unit', single, Bool.false_eq_true, ↓reduceIte]
    exact ih h
  | case6 => cases h
  | case7 read a b c d n unit cs alone ih =>
    -- with more text behind it, what follows is no other half either
    have alone' : ∀ a' b' c' d' tail, cs ++ extra ≠ '\\' :: 'u' :: a' :: b' :: c' :: d' :: tail := by
      intro a' b' c' d' tail escape
      obtain ⟨tail', same⟩ := exists_of_readText_escape h escape
      exact alone a' b' c' d' tail' same
    have step : readText read ('\\' :: 'u' :: a :: b :: c :: d :: (cs ++ extra)) =
        readText (withPoint n read) (cs ++ extra) := by
      rw [readText]
      simp only [unit]
    exact step.trans (ih h)
  | case8 read e cs noUnit c simple ih =>
    have notUnit : e ≠ 'u' := by
      rintro rfl
      cases simple
    simpa [readText, notUnit, simple] using ih h
  | case9 => cases h
  | case10 => cases h
  | case11 => cases h
  | case12 read c cs noQuote _ noEscape noEnd visible ih =>
    have plain : c ≠ '\\' := by
      rintro rfl
      cases cs with
      | nil => exact noEnd rfl rfl
      | cons e cs => exact noEscape e cs rfl rfl
    rw [List.cons_append, readText.eq_6 _ _ _ noQuote (fun _ _ _ _ _ same => absurd same plain)
      (fun _ _ same => absurd same plain) (fun same => absurd same plain), if_neg visible]
    exact ih h

/-! ## Numbers -/

/-- Whether a character ends a number inside a list or an object. -/
def isMark (c : Char) : Bool :=
  isSpace c || c == ',' || c == ']' || c == '\x7d'

def Marked (rest : List Char) : Prop :=
  ∃ c tail, rest = c :: tail ∧ isMark c = true

theorem Marked.ne_nil {rest : List Char} (h : Marked rest) : rest ≠ [] := by
  obtain ⟨c, tail, rfl, -⟩ := h
  simp

theorem not_marked_cons {c : Char} (h : isMark c = false) (tail : List Char) : ¬ Marked (c :: tail) := by
  rintro ⟨d, tail', same, mark⟩
  cases same
  simp [h] at mark

theorem spanDigits_append {cs : List Char} (h : (spanDigits cs).2 ≠ []) (extra : List Char) :
    spanDigits (cs ++ extra) = ((spanDigits cs).1, (spanDigits cs).2 ++ extra) := by
  induction cs with
  | nil => simp [spanDigits] at h
  | cons c cs ih =>
    cases digit : c.isDigit with
    | true =>
      have inner : (spanDigits cs).2 ≠ [] := by simpa [spanDigits, digit] using h
      have same := ih inner
      simp only [spanDigits, Prod.mk.injEq] at same
      simp [spanDigits, digit, same]
    | false => simp [spanDigits, digit]

theorem splitSign_append {cs : List Char} (h : cs ≠ []) (extra : List Char) :
    splitSign (cs ++ extra) = ((splitSign cs).1, (splitSign cs).2 ++ extra) := by
  cases cs with
  | nil => exact absurd rfl h
  | cons c cs =>
    simp only [splitSign, List.cons_append]
    split <;> simp_all

/-- The exponent behind its letter. -/
theorem exponentPart_of_letter {e : Char} (letter : (e == 'e' || e == 'E') = true) (cs : List Char) :
    exponentPart (e :: cs) =
      if (spanDigits (splitSign cs).2).1.isEmpty then (0, e :: cs)
      else (if (splitSign cs).1 then -(digitsValue (spanDigits (splitSign cs).2).1 : Int)
        else digitsValue (spanDigits (splitSign cs).2).1, (spanDigits (splitSign cs).2).2) := by
  rw [exponentPart, if_pos letter]

theorem exponentPart_of_not_letter {e : Char} (letter : ¬ (e == 'e' || e == 'E') = true) (cs : List Char) :
    exponentPart (e :: cs) = (0, e :: cs) := by
  rw [exponentPart, if_neg letter]

theorem isMark_of_letter {e : Char} (letter : (e == 'e' || e == 'E') = true) : isMark e = false := by
  simp only [Bool.or_eq_true, beq_iff_eq] at letter
  rcases letter with rfl | rfl <;> decide

theorem exponentPart_append {cs : List Char} (h : Marked (exponentPart cs).2) (extra : List Char) :
    exponentPart (cs ++ extra) = ((exponentPart cs).1, (exponentPart cs).2 ++ extra) := by
  cases cs with
  | nil => exact absurd rfl h.ne_nil
  | cons e cs =>
    rw [List.cons_append]
    by_cases letter : (e == 'e' || e == 'E') = true
    · rw [exponentPart_of_letter letter] at h ⊢
      rw [exponentPart_of_letter letter]
      by_cases bare : (spanDigits (splitSign cs).2).1.isEmpty = true
      · -- without digits the letter is left over, and it ends no number
        rw [if_pos bare] at h
        exact absurd h (not_marked_cons (isMark_of_letter letter) cs)
      · rw [if_neg bare] at h
        have signed : cs ≠ [] := by
          rintro rfl
          exact bare rfl
        rw [splitSign_append signed]
        dsimp only
        rw [spanDigits_append h.ne_nil, if_neg bare]
        simp [bare]
    · simp [exponentPart_of_not_letter letter]

theorem fractionPart_of_point (cs : List Char) :
    fractionPart ('.' :: cs) = if (spanDigits cs).1.isEmpty then (none, '.' :: cs)
      else (some (spanDigits cs).1, (spanDigits cs).2) := by
  rw [fractionPart]

theorem fractionPart_of_ne {c : Char} (h : c ≠ '.') (cs : List Char) :
    fractionPart (c :: cs) = (none, c :: cs) := by
  rw [fractionPart]
  simp [h]

theorem fractionPart_append {cs : List Char} (h : (fractionPart cs).2 ≠ [])
    (noPoint : (fractionPart cs).2.head? ≠ some '.') (extra : List Char) :
    fractionPart (cs ++ extra) = ((fractionPart cs).1, (fractionPart cs).2 ++ extra) := by
  cases cs with
  | nil => exact absurd rfl h
  | cons c cs =>
    rw [List.cons_append]
    by_cases point : c = '.'
    · subst point
      rw [fractionPart_of_point] at h noPoint ⊢
      by_cases bare : (spanDigits cs).1.isEmpty = true
      · rw [if_pos bare] at noPoint
        exact absurd rfl noPoint
      · rw [if_neg bare] at h
        rw [fractionPart_of_point, spanDigits_append h]
        simp [bare]
    · simp [fractionPart_of_ne point]

/-- The digits before the point: a zero stands alone. -/
def wholePart (cs : List Char) : List Char × List Char :=
  match cs with
  | '0' :: rest => (['0'], rest)
  | _ => spanDigits cs

theorem wholePart_of_ne {c : Char} (h : c ≠ '0') (cs : List Char) :
    wholePart (c :: cs) = spanDigits (c :: cs) := by
  rw [wholePart]
  simp [h]

theorem wholePart_append {cs : List Char} (h : (wholePart cs).2 ≠ []) (extra : List Char) :
    wholePart (cs ++ extra) = ((wholePart cs).1, (wholePart cs).2 ++ extra) := by
  cases cs with
  | nil => exact absurd rfl h
  | cons c cs =>
    by_cases zero : c = '0'
    · subst zero
      rfl
    · rw [wholePart_of_ne zero] at h
      rw [List.cons_append, wholePart_of_ne zero, wholePart_of_ne zero, ← List.cons_append,
        spanDigits_append h]

/-- What the parts of a number amount to; `unscaled` tells that there is no exponent. -/
def ofParts (negative : Bool) (whole : List Char) (fraction? : Option (List Char)) (e : Int)
    (unscaled : Bool) : Except ReadError Value :=
  if whole.isEmpty then .error .malformed
  else if fraction?.isNone && unscaled then
    if maxDigits < whole.length then .error .tooManyDigits
    else .ok (.int (if negative then -(digitsValue whole : Int) else digitsValue whole))
  else
    let fraction := fraction?.getD []
    let x := nearest (digitsValue (whole ++ fraction)) (e - fraction.length)
    .ok (.float (if negative then -x else x))

def afterFraction (cs : List Char) : List Char :=
  (fractionPart (wholePart cs).2).2

/-- A number is read part by part. -/
theorem readNumber_eq (negative : Bool) (cs : List Char) :
    readNumber negative cs =
      (ofParts negative (wholePart cs).1 (fractionPart (wholePart cs).2).1 (exponentPart (afterFraction cs)).1
        ((exponentPart (afterFraction cs)).2.length == (afterFraction cs).length)).map
        fun v => (v, (exponentPart (afterFraction cs)).2) := by
  rw [ofParts, apply_ite (Except.map _), apply_ite (Except.map _), apply_ite (Except.map _)]
  rfl

/-- Where something is left that ends a number, no point is left before the exponent. -/
theorem head?_of_marked {cs : List Char} (h : Marked (exponentPart cs).2) :
    cs ≠ [] ∧ cs.head? ≠ some '.' := by
  cases cs with
  | nil => exact absurd rfl h.ne_nil
  | cons c cs =>
    refine ⟨by simp, ?_⟩
    rintro point
    cases point
    rw [exponentPart_of_not_letter (by decide)] at h
    exact not_marked_cons (by decide) cs h

theorem readNumber_append {negative : Bool} {cs rest : List Char} {v : Value}
    (h : readNumber negative cs = .ok (v, rest)) (marked : Marked rest) (extra : List Char) :
    readNumber negative (cs ++ extra) = .ok (v, rest ++ extra) := by
  rw [readNumber_eq] at h
  cases read : ofParts negative (wholePart cs).1 (fractionPart (wholePart cs).2).1
      (exponentPart (afterFraction cs)).1
      ((exponentPart (afterFraction cs)).2.length == (afterFraction cs).length) with
  | error e => simp [read, Except.map] at h
  | ok found =>
    simp only [read, Except.map, Except.ok.injEq, Prod.mk.injEq] at h
    obtain ⟨rfl, rfl⟩ := h
    -- something is left behind the last part, so each part ends inside the text
    obtain ⟨someLeft, noPoint⟩ := head?_of_marked marked
    have digits : (wholePart cs).2 ≠ [] := by
      intro none_left
      rw [afterFraction, none_left] at someLeft
      exact someLeft rfl
    have whole := wholePart_append digits extra
    have fraction := fractionPart_append someLeft noPoint extra
    have exponent := exponentPart_append marked extra
    have left : afterFraction (cs ++ extra) = afterFraction cs ++ extra := by
      rw [afterFraction, whole, fraction, afterFraction]
    have unscaled : (((exponentPart (afterFraction cs)).2 ++ extra).length ==
        (afterFraction cs ++ extra).length) =
          ((exponentPart (afterFraction cs)).2.length == (afterFraction cs).length) := by
      rw [Bool.eq_iff_iff]
      simp
    rw [readNumber_eq, left, exponent, whole]
    dsimp only
    rw [fraction, unscaled, read]
    rfl

/-- A number starts with a digit. -/
theorem exists_digit_of_readNumber {negative : Bool} {cs rest : List Char} {v : Value}
    (h : readNumber negative cs = .ok (v, rest)) : ∃ c tail, cs = c :: tail ∧ c.isDigit = true := by
  rw [readNumber_eq] at h
  by_cases none_read : (wholePart cs).1.isEmpty = true
  · rw [ofParts, if_pos none_read] at h
    cases h
  · cases cs with
    | nil => exact absurd rfl none_read
    | cons c cs =>
      refine ⟨c, cs, rfl, ?_⟩
      by_cases zero : c = '0'
      · rw [zero]
        decide
      · rw [wholePart_of_ne zero] at none_read
        cases digit : c.isDigit with
        | true => rfl
        | false => simp [spanDigits, digit] at none_read

/-! ## One step of the reader of values -/

/-- A value at the front of a text, and what is left, case by case. -/
inductive ReadCase (fuel : Nat) : Nat → List Char → Value → List Char → Prop
  | text {room : Nat} {cs rest : List Char} {s : String} :
      readText [] cs = .ok (s, rest) → ReadCase fuel room ('"' :: cs) (.text s) rest
  | noFields {room : Nat} {cs rest : List Char} :
      skipSpace cs = '\x7d' :: rest → ReadCase fuel (room + 1) ('\x7b' :: cs) (.object []) rest
  | fields {room : Nat} {cs rest : List Char} {fields : List (String × Value)} :
      readFields fuel room (skipSpace cs) = .ok (fields, rest) →
      ReadCase fuel (room + 1) ('\x7b' :: cs) (.object (collectFields fields)) rest
  | noItems {room : Nat} {cs rest : List Char} :
      skipSpace cs = ']' :: rest → ReadCase fuel (room + 1) ('[' :: cs) (.list []) rest
  | items {room : Nat} {cs rest : List Char} {items : List Value} :
      readItems fuel room (skipSpace cs) = .ok (items, rest) →
      ReadCase fuel (room + 1) ('[' :: cs) (.list items) rest
  | word {room : Nat} {c : Char} {word : List Char} {cs rest : List Char} {v : Value} :
      (c, word, v) ∈ [('-', "Infinity".toList, Value.float (-(1.0 / 0.0))), ('n', "ull".toList, .null),
        ('t', "rue".toList, .bool true), ('f', "alse".toList, .bool false),
        ('N', "aN".toList, .float (0.0 / 0.0)), ('I', "nfinity".toList, .float (1.0 / 0.0))] →
      dropWord? word cs = some rest → ReadCase fuel room (c :: cs) v rest
  | negative {room : Nat} {cs rest : List Char} {v : Value} :
      readNumber true cs = .ok (v, rest) → ReadCase fuel room ('-' :: cs) v rest
  | number {room : Nat} {cs rest : List Char} {v : Value} :
      readNumber false cs = .ok (v, rest) → ReadCase fuel room cs v rest

theorem readCase_of_readValue {fuel room : Nat} {cs rest : List Char} {v : Value}
    (h : readValue (fuel + 1) room cs = .ok (v, rest)) : ReadCase fuel room cs v rest := by
  rw [readValue.eq_def] at h
  dsimp only at h
  split at h
  case h_1 =>
    obtain ⟨⟨s, left⟩, read, same⟩ := bind_eq_ok_iff.1 h
    cases same
    exact .text read
  case h_2 =>
    split at h
    · cases h
    · cases h
      exact .noFields ‹_›
    · obtain ⟨⟨fields, left⟩, read, same⟩ := bind_eq_ok_iff.1 h
      cases same
      exact .fields read
  case h_3 =>
    split at h
    · cases h
    · cases h
      exact .noItems ‹_›
    · obtain ⟨⟨items, left⟩, read, same⟩ := bind_eq_ok_iff.1 h
      cases same
      exact .items read
  case h_4 =>
    split at h
    · rename_i dropped
      cases h
      exact .word (by simp) dropped
    · exact .negative h
  case h_10 => exact .number h
  -- the five words without a sign
  all_goals
    split at h
    · rename_i dropped
      cases h
      exact .word (by simp) dropped
    · cases h

theorem exists_of_readFields {fuel room : Nat} {cs rest : List Char} {fields : List (String × Value)}
    (h : readFields fuel room cs = .ok (fields, rest)) : ∃ tail, cs = '"' :: tail := by
  cases fuel with
  | zero => simp [readFields] at h
  | succ fuel =>
    rw [readFields.eq_def] at h
    dsimp only at h
    split at h
    · exact ⟨_, rfl⟩
    · cases h

theorem exists_of_readValue {fuel room : Nat} {cs rest : List Char} {v : Value}
    (h : readValue fuel room cs = .ok (v, rest)) : ∃ c tail, cs = c :: tail ∧ c ≠ ']' := by
  cases fuel with
  | zero => simp [readValue] at h
  | succ fuel =>
    cases readCase_of_readValue h with
    | text | noFields | fields | noItems | items | negative => exact ⟨_, _, rfl, by decide⟩
    | word listed =>
      refine ⟨_, _, rfl, ?_⟩
      rintro rfl
      simp at listed
    | number read =>
      obtain ⟨c, tail, rfl, digit⟩ := exists_digit_of_readNumber read
      refine ⟨c, tail, rfl, ?_⟩
      rintro rfl
      exact absurd digit (by decide)

theorem exists_of_readItems {fuel room : Nat} {cs rest : List Char} {items : List Value}
    (h : readItems fuel room cs = .ok (items, rest)) : ∃ c tail, cs = c :: tail ∧ c ≠ ']' := by
  cases fuel with
  | zero => simp [readItems] at h
  | succ fuel =>
    rw [readItems] at h
    obtain ⟨⟨v, left⟩, read, -⟩ := bind_eq_ok_iff.1 h
    exact exists_of_readValue read

theorem ReadCase.readValue {fuel room : Nat} {cs rest : List Char} {v : Value}
    (h : ReadCase fuel room cs v rest) : readValue (fuel + 1) room cs = .ok (v, rest) := by
  cases h with
  | text read => simp [Value.readValue, read, bind, Except.bind, pure, Except.pure]
  | noFields closed => simp [Value.readValue, closed]
  | fields read =>
    obtain ⟨tail, start⟩ := exists_of_readFields read
    rw [start] at read
    simp [Value.readValue, start, read, bind, Except.bind, pure, Except.pure]
  | noItems closed => simp [Value.readValue, closed]
  | items read =>
    simp only [Value.readValue]
    split
    · rename_i impossible
      cases impossible
    · rename_i closed
      obtain ⟨c, tail, start, other⟩ := exists_of_readItems read
      cases start.symm.trans closed
      exact absurd rfl other
    · rename_i same _
      cases same
      rw [read]
      rfl
  | word listed dropped =>
    simp only [List.mem_cons, Prod.mk.injEq, List.not_mem_nil, or_false] at listed
    rcases listed with ⟨rfl, rfl, rfl⟩ | ⟨rfl, rfl, rfl⟩ | ⟨rfl, rfl, rfl⟩ | ⟨rfl, rfl, rfl⟩ |
      ⟨rfl, rfl, rfl⟩ | ⟨rfl, rfl, rfl⟩ <;> simp only [Value.readValue, dropped]
  | negative read =>
    obtain ⟨c, tail, rfl, digit⟩ := exists_digit_of_readNumber read
    have finite : dropWord? "Infinity".toList (c :: tail) = none := by
      have other : 'I' ≠ c := by
        rintro rfl
        exact absurd digit (by decide)
      simp [dropWord?, other]
    simp only [Value.readValue, finite, read]
  | number read =>
    obtain ⟨c, tail, rfl, digit⟩ := exists_digit_of_readNumber read
    rw [Value.readValue.eq_def]
    dsimp only
    split
    case h_10 => exact read
    all_goals
      rename_i same
      cases same
      exact absurd digit (by decide)

/-! ## More text behind -/

variable {fuel more room : Nat} {cs rest tail : List Char} {c : Char}

theorem skipSpace_append (h : skipSpace cs = c :: tail) (extra : List Char) :
    skipSpace (cs ++ extra) = skipSpace cs ++ extra := by
  rw [skipSpace] at h
  simp [skipSpace, List.dropWhile_append, h]

theorem skipSpace_append_cons (h : skipSpace cs = c :: tail) (extra : List Char) :
    skipSpace (cs ++ extra) = c :: (tail ++ extra) := by
  rw [skipSpace_append h, h, List.cons_append]

theorem dropWord?_append {word : List Char} (h : dropWord? word cs = some rest) (extra : List Char) :
    dropWord? word (cs ++ extra) = some (rest ++ extra) := by
  fun_induction dropWord? word cs with
  | case1 cs =>
    cases h
    rfl
  | case2 ws c cs ih => simpa [dropWord?] using ih h
  | case3 => cases h
  | case4 => cases h

theorem marked_of_skipSpace (h : skipSpace rest = c :: tail) (mark : isMark c = true) : Marked rest := by
  cases rest with
  | nil => cases h
  | cons d rest =>
    refine ⟨d, rest, rfl, ?_⟩
    cases space : isSpace d with
    | true => simp [isMark, space]
    | false =>
      rw [skipSpace, List.dropWhile_cons_of_neg (by simp [space])] at h
      cases h
      exact mark

def Bracketed (cs : List Char) : Prop :=
  cs.head? = some '[' ∨ cs.head? = some '\x7b'

/-- With more text behind, and with this fuel or more, the readers read the same and leave more.  A value
has to end where it is seen to end: in front of a mark, or with its own bracket. -/
structure ReadsOn (fuel : Nat) : Prop where
  value : ∀ {room : Nat} {cs rest : List Char} {v : Value}, readValue fuel room cs = .ok (v, rest) →
    Marked rest ∨ Bracketed cs → ∀ {more : Nat}, fuel ≤ more → ∀ extra : List Char,
    readValue more room (cs ++ extra) = .ok (v, rest ++ extra)
  items : ∀ {room : Nat} {cs rest : List Char} {vs : List Value}, readItems fuel room cs = .ok (vs, rest) →
    ∀ {more : Nat}, fuel ≤ more → ∀ extra : List Char,
    readItems more room (cs ++ extra) = .ok (vs, rest ++ extra)
  fields : ∀ {room : Nat} {cs rest : List Char} {fs : List (String × Value)},
    readFields fuel room cs = .ok (fs, rest) → ∀ {more : Nat}, fuel ≤ more → ∀ extra : List Char,
    readFields more room (cs ++ extra) = .ok (fs, rest ++ extra)

theorem readsOn_zero : ReadsOn 0 where
  value h := by simp [readValue] at h
  items h := by simp [readItems] at h
  fields h := by simp [readFields] at h

/-- One step of reading a value: what is inside is read with less fuel. -/
theorem readsOn_value {v : Value} (ih : ReadsOn fuel) (h : ReadCase fuel room cs v rest)
    (ended : Marked rest ∨ Bracketed cs) (le : fuel ≤ more) (extra : List Char) :
    ReadCase more room (cs ++ extra) v (rest ++ extra) := by
  cases h with
  | text read => exact .text (readText_append read extra)
  | noFields closed => exact .noFields (skipSpace_append_cons closed extra)
  | fields read =>
    obtain ⟨tail, start⟩ := exists_of_readFields read
    exact .fields (skipSpace_append start extra ▸ ih.fields read le extra)
  | noItems closed => exact .noItems (skipSpace_append_cons closed extra)
  | items read =>
    obtain ⟨c, tail, start, -⟩ := exists_of_readItems read
    exact .items (skipSpace_append start extra ▸ ih.items read le extra)
  | word listed dropped => exact .word listed (dropWord?_append dropped extra)
  | negative read =>
    have marked := ended.resolve_right (by simp [Bracketed])
    exact .negative (readNumber_append read marked extra)
  | number read =>
    -- a number has no bracket of its own, so the mark ends it
    obtain ⟨c, tail, rfl, digit⟩ := exists_digit_of_readNumber read
    have noBracket : ¬ Bracketed (c :: tail) := by
      rintro (start | start) <;> cases start <;> exact absurd digit (by decide)
    exact .number (readNumber_append read (ended.resolve_right noBracket) extra)

/-- The items of a list: one, and perhaps others behind a comma. -/
theorem readItems_iff {vs : List Value} :
    readItems (fuel + 1) room cs = .ok (vs, rest) ↔
      ∃ v left, readValue fuel room cs = .ok (v, left) ∧
        ((skipSpace left = ']' :: rest ∧ vs = [v]) ∨
          ∃ tail others, skipSpace left = ',' :: tail ∧
            readItems fuel room (skipSpace tail) = .ok (others, rest) ∧ vs = v :: others) := by
  rw [readItems]
  constructor
  · intro h
    obtain ⟨⟨v, left⟩, read, next⟩ := bind_eq_ok_iff.1 h
    refine ⟨v, left, read, ?_⟩
    dsimp only at next
    split at next
    · rename_i closed
      cases next
      exact .inl ⟨closed, rfl⟩
    · rename_i tail comma
      obtain ⟨⟨others, left'⟩, read', same⟩ := bind_eq_ok_iff.1 next
      cases same
      exact .inr ⟨tail, others, comma, read', rfl⟩
    · cases next
  · rintro ⟨v, left, read, ⟨closed, rfl⟩ | ⟨tail, others, comma, read', rfl⟩⟩
    · simp [read, closed, bind, Except.bind, pure, Except.pure]
    · simp [read, comma, read', bind, Except.bind, pure, Except.pure]

theorem readsOn_items {vs : List Value} (ih : ReadsOn fuel)
    (h : readItems (fuel + 1) room cs = .ok (vs, rest)) (le : fuel ≤ more) (extra : List Char) :
    readItems (more + 1) room (cs ++ extra) = .ok (vs, rest ++ extra) := by
  obtain ⟨v, left, read, next⟩ := readItems_iff.1 h
  have read' (marked : Marked left) := ih.value read (.inl marked) le extra
  rw [readItems_iff]
  refine ⟨v, left ++ extra, ?_⟩
  cases next with
  | inl last =>
    obtain ⟨closed, rfl⟩ := last
    have marked := marked_of_skipSpace closed (by decide)
    exact ⟨read' marked, .inl ⟨skipSpace_append_cons closed extra, rfl⟩⟩
  | inr others =>
    obtain ⟨tail, others, comma, readOthers, rfl⟩ := others
    have marked := marked_of_skipSpace comma (by decide)
    obtain ⟨_, _, start, -⟩ := exists_of_readItems readOthers
    have readOthers' := skipSpace_append start extra ▸ ih.items readOthers le extra
    exact ⟨read' marked, .inr ⟨_, others, skipSpace_append_cons comma extra, readOthers', rfl⟩⟩

/-- The fields of an object: one, and perhaps others behind a comma. -/
theorem readFields_iff {fs : List (String × Value)} :
    readFields (fuel + 1) room cs = .ok (fs, rest) ↔
      ∃ start key left value v left', cs = '"' :: start ∧ readText [] start = .ok (key, left) ∧
        skipSpace left = ':' :: value ∧ readValue fuel room (skipSpace value) = .ok (v, left') ∧
        ((skipSpace left' = '\x7d' :: rest ∧ fs = [(key, v)]) ∨
          ∃ tail others, skipSpace left' = ',' :: tail ∧
            readFields fuel room (skipSpace tail) = .ok (others, rest) ∧ fs = (key, v) :: others) := by
  constructor
  · intro h
    obtain ⟨start, rfl⟩ := exists_of_readFields h
    simp only [readFields] at h
    obtain ⟨⟨key, left⟩, read, next⟩ := bind_eq_ok_iff.1 h
    dsimp only at next
    split at next
    · rename_i value colon
      obtain ⟨⟨v, left'⟩, read', next⟩ := bind_eq_ok_iff.1 next
      refine ⟨start, key, left, value, v, left', rfl, read, colon, read', ?_⟩
      dsimp only at next
      split at next
      · rename_i closed
        cases next
        exact .inl ⟨closed, rfl⟩
      · rename_i tail comma
        obtain ⟨⟨others, left''⟩, read'', same⟩ := bind_eq_ok_iff.1 next
        cases same
        exact .inr ⟨tail, others, comma, read'', rfl⟩
      · cases next
    · cases next
  · rintro ⟨start, key, left, value, v, left', rfl, read, colon, read',
      ⟨closed, rfl⟩ | ⟨tail, others, comma, read'', rfl⟩⟩
    · simp [readFields, read, colon, read', closed, bind, Except.bind, pure, Except.pure]
    · simp [readFields, read, colon, read', comma, read'', bind, Except.bind, pure, Except.pure]

theorem readsOn_fields {fs : List (String × Value)} (ih : ReadsOn fuel)
    (h : readFields (fuel + 1) room cs = .ok (fs, rest)) (le : fuel ≤ more) (extra : List Char) :
    readFields (more + 1) room (cs ++ extra) = .ok (fs, rest ++ extra) := by
  obtain ⟨start, key, left, value, v, left', rfl, named, colon, read, next⟩ := readFields_iff.1 h
  obtain ⟨_, _, first, -⟩ := exists_of_readValue read
  have read' (marked : Marked left') :=
    skipSpace_append first extra ▸ ih.value read (.inl marked) le extra
  rw [readFields_iff]
  refine ⟨start ++ extra, key, left ++ extra, value ++ extra, v, left' ++ extra, rfl,
    readText_append named extra, skipSpace_append_cons colon extra, ?_⟩
  cases next with
  | inl last =>
    obtain ⟨closed, rfl⟩ := last
    have marked := marked_of_skipSpace closed (by decide)
    exact ⟨read' marked, .inl ⟨skipSpace_append_cons closed extra, rfl⟩⟩
  | inr others =>
    obtain ⟨tail, others, comma, readOthers, rfl⟩ := others
    have marked := marked_of_skipSpace comma (by decide)
    obtain ⟨_, first'⟩ := exists_of_readFields readOthers
    have readOthers' := skipSpace_append first' extra ▸ ih.fields readOthers le extra
    exact ⟨read' marked, .inr ⟨_, others, skipSpace_append_cons comma extra, readOthers', rfl⟩⟩

theorem readsOn (fuel : Nat) : ReadsOn fuel := by
  induction fuel with
  | zero => exact readsOn_zero
  | succ fuel ih =>
    constructor
    · intro room cs rest v h ended more le extra
      cases more with
      | zero => omega
      | succ more =>
        have less : fuel ≤ more := by omega
        exact (readsOn_value ih (readCase_of_readValue h) ended less extra).readValue
    · intro room cs rest vs h more le extra
      cases more with
      | zero => omega
      | succ more => exact readsOn_items ih h (by omega) extra
    · intro room cs rest fs h more le extra
      cases more with
      | zero => omega
      | succ more => exact readsOn_fields ih h (by omega) extra

/-! ## Whole texts -/

theorem skipSpace_of_bracketed (h : Bracketed cs) : skipSpace cs = cs := by
  cases cs with
  | nil => rfl
  | cons c cs =>
    rcases h with h | h <;> cases h <;> rfl

theorem skipSpace_append_ne_nil {extra : List Char} (h : ∃ c ∈ extra, isSpace c = false)
    (cs : List Char) : skipSpace (cs ++ extra) ≠ [] := by
  obtain ⟨c, mem, other⟩ := h
  intro blank
  have space := List.dropWhile_eq_nil_iff.1 blank c (by simp [mem])
  simp [other] at space

/-- What is read is one value, with nothing but white space behind. -/
theorem parse_eq_ok_iff {s : String} {v : Value} :
    parse s = .ok v ↔ ∃ rest, readValue (2 * s.toList.length + 2) maxNesting (skipSpace s.toList) =
      .ok (v, rest) ∧ skipSpace rest = [] := by
  rw [parse, parseWithin, bind_eq_ok_iff]
  constructor
  · rintro ⟨⟨v', rest⟩, read, next⟩
    dsimp only at next
    split at next
    · rename_i blank
      cases next
      exact ⟨rest, read, List.isEmpty_iff.1 blank⟩
    · cases next
  · rintro ⟨rest, read, blank⟩
    exact ⟨(v, rest), read, by simp [blank, pure, Except.pure]⟩

/-- A document in brackets ends with its own bracket, so a text that goes on behind it is no document. -/
theorem parse_append {extra : List Char} {v : Value} (bracket : Bracketed cs)
    (read : parse (String.ofList cs) = .ok v) (goesOn : ∃ c ∈ extra, isSpace c = false) :
    parse (String.ofList (cs ++ extra)) = .error .malformed := by
  obtain ⟨rest, read, -⟩ := parse_eq_ok_iff.1 read
  rw [String.toList_ofList, skipSpace_of_bracketed bracket] at read
  have le : 2 * cs.length + 2 ≤ 2 * (cs ++ extra).length + 2 := by
    rw [List.length_append]
    omega
  have read' := (readsOn _).value read (.inr bracket) le extra
  have bracket' : Bracketed (cs ++ extra) := by
    cases cs with
    | nil => simp [Bracketed] at bracket
    | cons c cs => exact bracket
  have left := skipSpace_append_ne_nil goesOn rest
  simp only [parse, parseWithin, String.toList_ofList, skipSpace_of_bracketed bracket', read', bind, Except.bind]
  simp [left]

end RepoAudit.Value

import RepoAudit.Proofs.Llm.Answer
import RepoAudit.Proofs.Value.Reader
import RepoAudit.Value.Printer

/-! # A document with other text around it

An answer holds the document form of an object or a list, with other text before and behind it.  Text in
front does no harm as long as it holds no opening bracket.  Text behind does no harm as long as it holds
no closing one; if it does, what is read runs on to that bracket and is no document.

* `DocumentShape.Holds` – the values of a shape;
* `documentIn_document`, `documentIn_document_of_mem` – text behind without and with a closing bracket;
* `extractDocument_document` – what is taken out of the answer, whatever stands behind.
-/

namespace RepoAudit

namespace DocumentShape

/-- The values whose document form has the brackets of the shape. -/
def Holds : DocumentShape → Value → Prop
  | .object, .object _ => True
  | .list, .list _ => True
  | _, _ => False

theorem bracketed (shape : DocumentShape) (cs : List Char) : Value.Bracketed (shape.opening :: cs) := by
  cases shape with
  | object => exact .inr rfl
  | list => exact .inl rfl

theorem isSpace_closing (shape : DocumentShape) : Value.isSpace shape.closing = false := by
  cases shape <;> decide

/-- The document form stands between the brackets of the shape. -/
theorem Holds.exists_inside {shape : DocumentShape} {v : Value} (h : shape.Holds v) :
    ∃ inside, v.document.toList = shape.opening :: inside ++ [shape.closing] := by
  cases shape with
  | object =>
    cases v with
    | object fields =>
      refine ⟨(", ".intercalate (Value.documentFields fields)).toList, ?_⟩
      simp [Value.document, opening, closing]
    | _ => exact h.elim
  | list =>
    cases v with
    | list items =>
      refine ⟨(", ".intercalate (Value.documentList items)).toList, ?_⟩
      simp [Value.document, opening, closing]
    | _ => exact h.elim

end DocumentShape

theorem exists_append_of_mem_last {c : Char} {cs : List Char} (h : c ∈ cs) :
    ∃ before after, cs = before ++ c :: after ∧ c ∉ after := by
  obtain ⟨passed, rest, reversed, last⟩ := List.eq_append_cons_of_mem (List.mem_reverse.2 h)
  refine ⟨rest.reverse, passed.reverse, ?_, by simpa using last⟩
  rw [List.reverse_eq_append_iff.1 reversed]
  simp

variable {shape : DocumentShape} {v : Value} {before after : String}

/-- Without a closing bracket behind it, the document is what is read. -/
theorem documentIn_document (holds : shape.Holds v) (inverse : Value.parse v.document = .ok v)
    (first : shape.opening ∉ before.toList) (last : shape.closing ∉ after.toList) :
    documentIn shape (before ++ v.document ++ after) = .ok (some v) := by
  obtain ⟨inside, form⟩ := holds.exists_inside
  have stretch : IsStretch shape (before ++ v.document ++ after).toList v.document.toList :=
    ⟨before.toList, inside, after.toList, form, by simp, first, last⟩
  exact documentIn_of_read stretch (by rw [String.ofList_toList, inverse])

/-- With a closing bracket behind it, the document and more is read, which is no document. -/
theorem documentIn_document_of_mem (holds : shape.Holds v) (inverse : Value.parse v.document = .ok v)
    (first : shape.opening ∉ before.toList) (behind : shape.closing ∈ after.toList) :
    documentIn shape (before ++ v.document ++ after) = .ok none := by
  obtain ⟨inside, form⟩ := holds.exists_inside
  -- the stretch that is read ends with the last closing bracket
  obtain ⟨passed, left, split, last⟩ := exists_append_of_mem_last behind
  have stretch : IsStretch shape (before ++ v.document ++ after).toList
      (v.document.toList ++ (passed ++ [shape.closing])) :=
    ⟨before.toList, inside ++ shape.closing :: passed, left, by simp [form], by simp [split], first, last⟩
  have bracket : Value.Bracketed v.document.toList := form ▸ shape.bracketed _
  have read : Value.parse (String.ofList v.document.toList) = .ok v := by
    rw [String.ofList_toList, inverse]
  have goesOn : ∃ c ∈ passed ++ [shape.closing], Value.isSpace c = false :=
    ⟨shape.closing, by simp, shape.isSpace_closing⟩
  exact documentIn_of_malformed stretch (Value.parse_append bracket read goesOn)

/-- Let an answer hold an object or a list in document form, one that reading gives back, with no opening
bracket before it.  It is what is taken out of the answer exactly when no closing bracket follows it;
otherwise nothing is. -/
theorem extractDocument_document (holds : shape.Holds v) (inverse : Value.parse v.document = .ok v)
    (first : shape.opening ∉ before.toList) (after : String) :
    extractDocument shape (.text (before ++ v.document ++ after)) =
      .ok (if shape.closing ∈ after.toList then none else some v) := by
  rw [extractDocument]
  split
  · rename_i behind
    exact documentIn_document_of_mem holds inverse first behind
  · rename_i last
    exact documentIn_document holds inverse first last

/-- An object whose text holds both brackets. -/
def bracketNote : Value :=
  .object [("note", .text "\x7d or \x7b"), ("lines", .list [.int 4])]

theorem holds_bracketNote : DocumentShape.object.Holds bracketNote := trivial

theorem parse_bracketNote : Value.parse bracketNote.document = .ok bracketNote := by
  have form : bracketNote.document = "\x7b\"note\": \"\x7d or \x7b\", \"lines\": [4]\x7d" := by decide +kernel
  rw [form]
  simp [bracketNote, Value.parse, Value.parseWithin, Value.readValue, Value.readItems, Value.readFields,
    Value.readText, Value.skipSpace, Value.isSpace, Value.readNumber, Decimal.spanDigits, Value.fractionPart,
    Decimal.exponentPart, Decimal.digitsValue, Decimal.maxDigits, Value.maxNesting, Value.collectFields,
    Value.setField, bind, Except.bind, pure, Except.pure]

/-- An opening bracket behind the object is passed over, a closing one loses it. -/
theorem extractDocument_document_bracketNote :
    extractDocument .object (.text ("Here: " ++ bracketNote.document ++ " (see \x7b above)")) =
        .ok (some bracketNote) ∧
      extractDocument .object (.text ("Here: " ++ bracketNote.document ++ " Use \x7b\x7d.")) = .ok none :=
  ⟨extractDocument_document holds_bracketNote parse_bracketNote (by decide) " (see \x7b above)",
    extractDocument_document holds_bracketNote parse_bracketNote (by decide) " Use \x7b\x7d."⟩

/-- An object at the start of an answer is lost when prose behind it holds a closing bracket. -/
theorem document_lost_behind_bracket :
    ¬ ∀ (v : Value) (before after : String), DocumentShape.object.Holds v →
      Value.parse v.document = .ok v → DocumentShape.object.opening ∉ before.toList →
      extractDocument .object (.text (before ++ v.document ++ after)) = .ok (some v) := by
  intro found
  have first : DocumentShape.object.opening ∉ "".toList := by decide
  have lost : documentIn .object ("" ++ bracketNote.document ++ " \x7d") = .ok none :=
    documentIn_document_of_mem holds_bracketNote parse_bracketNote first (by decide)
  have kept := found bracketNote "" " \x7d" holds_bracketNote parse_bracketNote first
  cases lost.symm.trans kept

end RepoAudit

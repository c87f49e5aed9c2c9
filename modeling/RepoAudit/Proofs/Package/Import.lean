import Mathlib.Data.List.TakeWhile
import RepoAudit.Package.Import

/-! # Import statements are read exactly

A script is a row of import statements of the five forms, separated by a semicolon and a line break.  Each
form is searched for on its own, and a clause may hold anything but quotes, also what looks like the start
of another statement.  Quotes decide what belongs together: a find starts before an opening quote, cannot
reach over it, and takes the specifier behind it.  No find starts inside a specifier, because something
blank or a parenthesis must follow the keyword.

* `ImportForm.opens` – a form stands at the front of what ends right before a quote;
* `match?_gap` – a form before a quote, in these terms;
* `scan_of_found`, `scan_of_unfound` – one search from a quote to the next;
* `ImportStatement`, `script` – statements and their text;
* `specifiers_script` – what the search for one form finds in a script, by induction on the statements;
* `mem_importedPackages_script` – the packages of a script are those of its statements.
-/

namespace RepoAudit

open Text

namespace ImportForm

def Unquoted (cs : List Char) : Prop := ∀ c ∈ cs, isQuote c = false

theorem unquoted_of_all {cs : List Char} (h : cs.all (!isQuote ·) = true) : Unquoted cs :=
  fun c mem => by simpa using List.all_eq_true.1 h c mem

theorem Unquoted.append {cs ds : List Char} (h : Unquoted cs) (h' : Unquoted ds) : Unquoted (cs ++ ds) := by
  intro c mem
  rcases List.mem_append.1 mem with front | back
  · exact h c front
  · exact h' c back

theorem Unquoted.of_cons {c : Char} {cs : List Char} (h : Unquoted (c :: cs)) : Unquoted cs :=
  fun d mem => h d (List.mem_cons_of_mem c mem)

/-- What has to stand behind the keyword, up to the quote. -/
def leads (form : ImportForm) (rest : List Char) : Bool :=
  match form with
  | .importFrom => endsInFrom rest
  | .importEffect => !rest.isEmpty && rest.all isBlank
  | .exportFrom => rest.all (· != ';') && endsInFrom rest
  | .requireCall | .importCall => rest.all isBlank

def keyword : ImportForm → String
  | .importFrom | .importEffect => "import"
  | .exportFrom => "export"
  | .requireCall => "require("
  | .importCall => "import("

/-- A form stands at the front of a text that ends right before a quote. -/
def opens (form : ImportForm) (gap : List Char) : Bool :=
  (after? form.keyword gap).any form.leads

/-- What follows the parenthesis that closes a call. -/
def closed? (rest : List Char) : Option (List Char) :=
  match rest.dropWhile isBlank with
  | ')' :: rest => some rest
  | _ => none

def finish? (form : ImportForm) (rest : List Char) : Option (List Char) :=
  match form with
  | .requireCall | .importCall => closed? rest
  | _ => some rest

/-! ## A form before a quote -/

theorem after?_eq_some_iff {word : String} {cs rest : List Char} :
    after? word cs = some rest ↔ cs = word.toList ++ rest := by
  rw [after?]
  constructor
  · intro h
    split at h
    · rename_i fits
      obtain ⟨tail, rfl⟩ := List.isPrefixOf_iff_prefix.1 fits
      simpa [← String.length_toList] using h
    · cases h
  · rintro rfl
    simp [← String.length_toList]

theorem Unquoted.of_after? {word : String} {gap rest : List Char} (h : Unquoted gap)
    (found : after? word gap = some rest) : Unquoted rest := by
  intro c mem
  exact h c (by simp [after?_eq_some_iff.1 found, mem])

/-- A word without quotes ends before the first quote. -/
theorem after?_gap {word : String} (plain : word.toList.all (!isQuote ·) = true) {q : Char}
    (quote : isQuote q = true) (gap tail : List Char) :
    after? word (gap ++ q :: tail) = (after? word gap).map (· ++ q :: tail) := by
  apply Option.ext
  intro rest
  simp only [after?_eq_some_iff, Option.map_eq_some_iff, List.append_eq_append_iff]
  constructor
  · intro h
    rcases h with ⟨beyond, whole, reach⟩ | ⟨left, inside, rfl⟩
    · cases beyond with
      | nil => exact ⟨[], by simp [whole], by simpa using reach⟩
      | cons c beyond =>
        -- the word would hold the quote
        cases reach
        have unquoted := List.all_eq_true.1 plain q (by simp [whole])
        simp [quote] at unquoted
    · exact ⟨left, inside, rfl⟩
  · rintro ⟨left, inside, rfl⟩
    exact .inr ⟨left, inside, rfl⟩

theorem takeWhile_gap {gap : List Char} (h : Unquoted gap) {q : Char} (quote : isQuote q = true)
    (tail : List Char) : (gap ++ q :: tail).takeWhile (!isQuote ·) = gap := by
  rw [List.takeWhile_append_of_pos (by simpa [Unquoted] using h)]
  simp [quote]

theorem dropWhile_gap {gap : List Char} (h : Unquoted gap) {q : Char} (quote : isQuote q = true)
    (tail : List Char) : (gap ++ q :: tail).dropWhile (!isQuote ·) = q :: tail := by
  rw [List.dropWhile_append_of_pos (by simpa [Unquoted] using h)]
  simp [quote]

theorem quoted?_of_unquoted {c : Char} (h : isQuote c = false) (cs : List Char) : quoted? (c :: cs) = none := by
  simp [quoted?, h]

theorem quoted?_specifier {q q' : Char} {inside : List Char} (quote : isQuote q = true)
    (quote' : isQuote q' = true) (h : Unquoted inside) (nonempty : inside ≠ []) (rest : List Char) :
    quoted? (q :: (inside ++ q' :: rest)) = some (inside, rest) := by
  simp [quoted?, quote, takeWhile_gap h quote', dropWhile_gap h quote', nonempty]

theorem isBlank_of_isQuote {q : Char} (h : isQuote q = true) : isBlank q = false := by
  simp only [isQuote, Bool.or_eq_true, beq_iff_eq] at h
  rcases h with rfl | rfl <;> decide

/-- Behind blanks the quote is reached; behind anything else it is not. -/
theorem quoted?_dropWhile_gap {gap : List Char} (h : Unquoted gap) {q : Char} (quote : isQuote q = true)
    (tail : List Char) :
    quoted? ((gap ++ q :: tail).dropWhile isBlank) = if gap.all isBlank then quoted? (q :: tail) else none := by
  induction gap with
  | nil => simp [isBlank_of_isQuote quote]
  | cons c cs ih =>
    cases blank : isBlank c with
    | true => simpa [blank] using ih h.of_cons
    | false => simp [blank, quoted?_of_unquoted (h c (by simp))]

theorem withFrom?_gap {word : String} (plain : word.toList.all (!isQuote ·) = true)
    (allowed : Char → Bool) {gap : List Char} (h : Unquoted gap) {q : Char} (quote : isQuote q = true)
    (tail : List Char) :
    withFrom? word allowed (gap ++ q :: tail) =
      if (after? word gap).any fun clause => clause.all allowed && endsInFrom clause
      then quoted? (q :: tail) else none := by
  rw [withFrom?, after?_gap plain quote]
  cases found : after? word gap with
  | none => simp
  | some clause =>
    have unquoted := h.of_after? found
    simp only [Option.map_some, Option.bind_eq_bind, Option.bind_some, takeWhile_gap unquoted quote,
      dropWhile_gap unquoted quote, Option.any_some]

theorem call?_gap {word : String} (plain : word.toList.all (!isQuote ·) = true) {gap : List Char}
    (h : Unquoted gap) {q : Char} (quote : isQuote q = true) (tail : List Char) :
    call? word (gap ++ q :: tail) = if (after? word gap).any (·.all isBlank)
      then (quoted? (q :: tail)).bind fun found => (closed? found.2).map fun rest => (found.1, rest)
      else none := by
  rw [call?, after?_gap plain quote]
  cases found : after? word gap with
  | none => simp
  | some blanks =>
    have unquoted := h.of_after? found
    simp only [Option.map_some, Option.bind_eq_bind, Option.bind_some,
      quoted?_dropWhile_gap unquoted quote, Option.any_some]
    split
    · congr 1
      funext found
      split
      · rename_i rest closes
        simp [closed?, closes]
      · rename_i unclosed
        rw [closed?]
        split
        · rename_i rest closes
          exact absurd closes (unclosed rest)
        · rfl
    · rfl

/-- A form before a quote is found if it opens there, and then the quoted specifier and the end of the
form decide. -/
theorem match?_gap (form : ImportForm) {gap : List Char} (h : Unquoted gap) {q : Char}
    (quote : isQuote q = true) (tail : List Char) :
    form.match? (gap ++ q :: tail) = if form.opens gap then
      (quoted? (q :: tail)).bind fun found => (form.finish? found.2).map fun rest => (found.1, rest)
    else none := by
  have whole : (quoted? (q :: tail)).bind (fun found => some (found.1, found.2)) = quoted? (q :: tail) := by
    cases quoted? (q :: tail) <;> rfl
  cases form with
  | importFrom =>
    have anything (clause : List Char) : (clause.all (fun _ => true) && endsInFrom clause) =
        leads .importFrom clause := by simp [leads]
    simp only [match?, withFrom?_gap (show "import".toList.all (!isQuote ·) = true by decide) _ h quote,
      opens, keyword, anything, finish?, Option.map_some, whole]
  | exportFrom =>
    rw [match?, withFrom?_gap (by decide) _ h quote]
    simp only [opens, keyword, finish?, Option.map_some, whole]
    rfl
  | requireCall =>
    rw [match?, call?_gap (by decide) h quote]
    rfl
  | importCall =>
    rw [match?, call?_gap (by decide) h quote]
    rfl
  | importEffect =>
    rw [match?, after?_gap (by decide) quote]
    cases found : after? "import" gap with
    | none => simp [opens, keyword, found]
    | some blanks =>
      have unquoted := h.of_after? found
      simp only [Option.map_some, Option.bind_eq_bind, Option.bind_some,
        quoted?_dropWhile_gap unquoted quote, opens, keyword, found, Option.any_some, leads, finish?, whole]
      by_cases blank : blanks.all isBlank = true
      · -- something was dropped exactly if there was a blank
        have reached : (blanks ++ q :: tail).dropWhile isBlank = q :: tail := by
          rw [List.dropWhile_append_of_pos (by simpa using blank)]
          simp [isBlank_of_isQuote quote]
        rw [reached]
        cases blanks with
        | nil => simp
        | cons c blanks =>
          have shorter : (q :: tail).length < (c :: blanks ++ q :: tail).length := by
            simp only [List.length_append, List.length_cons]
            omega
          rw [if_pos shorter]
          simp [blank]
      · simp [blank]

/-! ## Where forms may start -/

theorem match?_of_after? {form : ImportForm} {cs : List Char} (h : after? form.keyword cs = none) :
    form.match? cs = none := by
  cases form <;> simp_all [keyword, match?, withFrom?, call?]

/-- No form starts with a character outside of words. -/
theorem match?_of_not_isWordChar (form : ImportForm) {c : Char} (h : isWordChar c = false) (cs : List Char) :
    form.match? (c :: cs) = none := by
  apply match?_of_after?
  have starts : form.keyword.toList.head?.any isWordChar = true := by cases form <;> decide
  cases found : after? form.keyword (c :: cs) with
  | none => rfl
  | some rest =>
    have front := after?_eq_some_iff.1 found
    cases letters : form.keyword.toList with
    | nil => simp [letters] at starts
    | cons d letters' =>
      rw [letters] at front starts
      obtain ⟨rfl, -⟩ := List.cons.inj front
      simp [h] at starts

theorem head?_of_endsInFrom {clause : List Char} (h : endsInFrom clause = true) :
    clause.head?.any isBlank = true := by
  rw [endsInFrom] at h
  split at h
  · simp only [Bool.and_eq_true] at h
    exact h.2
  · cases h

/-- A blank or a parenthesis stands somewhere before the quote. -/
theorem exists_of_opens {form : ImportForm} {gap : List Char} (h : form.opens gap = true) :
    ∃ c ∈ gap, isBlank c = true ∨ c = '(' := by
  rw [opens] at h
  cases found : after? form.keyword gap with
  | none => simp [found] at h
  | some rest =>
    rw [found, Option.any_some] at h
    rw [after?_eq_some_iff.1 found]
    have starts : rest.head?.any isBlank = true →
        ∃ c ∈ form.keyword.toList ++ rest, isBlank c = true ∨ c = '(' := by
      intro blank
      cases rest with
      | nil => simp at blank
      | cons c rest => exact ⟨c, by simp, .inl (by simpa using blank)⟩
    cases form with
    | requireCall => exact ⟨'(', by simp [keyword], .inr rfl⟩
    | importCall => exact ⟨'(', by simp [keyword], .inr rfl⟩
    | importEffect =>
      apply starts
      cases rest <;> simp_all [leads]
    | importFrom => exact starts (head?_of_endsInFrom h)
    | exportFrom =>
      simp only [leads, Bool.and_eq_true] at h
      exact starts (head?_of_endsInFrom h.2)

/-! ## From a quote to the next -/

variable {form : ImportForm} {inWord : Bool} {gap inside rest : List Char} {q q' : Char}

theorem scan_cons_of_none {c : Char} {cs : List Char} (h : inWord = false → form.match? (c :: cs) = none) :
    form.scan inWord 0 (c :: cs) = form.scan (isWordChar c) 0 cs := by
  rw [scan]
  cases inWord with
  | true => simp
  | false => simp [h rfl]

theorem scan_skip (form : ImportForm) (inWord : Bool) (cs : List Char) (c : Char) (rest : List Char) :
    form.scan inWord (cs.length + 1) (cs ++ c :: rest) = form.scan (isWordChar c) 0 rest := by
  induction cs generalizing inWord with
  | nil => rw [List.length_nil, List.nil_append, scan]
  | cons d cs ih => rw [List.length_cons, List.cons_append, scan, ih]

/-- The search goes on behind a find. -/
theorem scan_cons_of_some {c d : Char} {cs found : List Char}
    (h : form.match? (c :: (cs ++ d :: rest)) = some (found, rest)) :
    form.scan false 0 (c :: (cs ++ d :: rest)) =
      String.ofList found :: form.scan (isWordChar d) 0 rest := by
  have skipped : (cs ++ d :: rest).length - rest.length = cs.length + 1 := by
    simp only [List.length_append, List.length_cons]
    omega
  rw [scan]
  simp only [Bool.false_eq_true, ↓reduceIte, h]
  rw [skipped, scan_skip]

theorem scan_cons_of_not_isWordChar {c : Char} (h : isWordChar c = false) (cs : List Char) :
    form.scan inWord 0 (c :: cs) = form.scan false 0 cs := by
  rw [scan_cons_of_none fun _ => match?_of_not_isWordChar form h cs, h]

theorem isWordChar_of_isQuote (h : isQuote q = true) : isWordChar q = false := by
  simp only [isQuote, Bool.or_eq_true, beq_iff_eq] at h
  rcases h with rfl | rfl <;> decide

/-- Nothing is found inside a specifier. -/
theorem scan_specifier (quote : isQuote q = true)
    (plain : ∀ c ∈ inside, isQuote c = false ∧ isBlank c = false ∧ c ≠ '(') (rest : List Char) :
    form.scan inWord 0 (inside ++ q :: rest) = form.scan false 0 rest := by
  induction inside generalizing inWord with
  | nil => exact scan_cons_of_not_isWordChar (isWordChar_of_isQuote quote) rest
  | cons c cs ih =>
    have closed : form.opens (c :: cs) = false := by
      rw [Bool.eq_false_iff]
      intro opened
      obtain ⟨d, mem, blank | paren⟩ := exists_of_opens opened
      · simp [(plain d mem).2.1] at blank
      · exact (plain d mem).2.2 paren
    have unquoted : Unquoted (c :: cs) := fun d mem => (plain d mem).1
    rw [List.cons_append, scan_cons_of_none]
    · exact ih fun d mem => plain d (by simp [mem])
    · intro
      simpa [closed] using match?_gap form unquoted quote rest

/-- Whether a form opens at some place before the quote that is not inside a word. -/
def found (form : ImportForm) (inWord : Bool) : List Char → Bool
  | [] => false
  | c :: cs => (!inWord && form.opens (c :: cs)) || found form (isWordChar c) cs

theorem found_of_opens (h : form.opens gap = true) : form.found false gap = true := by
  cases gap with
  | nil =>
    obtain ⟨c, mem, -⟩ := exists_of_opens h
    cases mem
  | cons c cs => simp [found, h]

/-- What a form leaves behind the closing quote starts there or behind a parenthesis. -/
theorem finish?_eq_some {r : List Char} (h : form.finish? rest = some r) :
    rest = r ∨ ∃ blanks, rest = blanks ++ ')' :: r := by
  have call : closed? rest = some r → ∃ blanks, rest = blanks ++ ')' :: r := by
    intro closes
    rw [closed?] at closes
    split at closes
    · rename_i r' reached
      cases closes
      exact ⟨rest.takeWhile isBlank, by rw [← reached, List.takeWhile_append_dropWhile]⟩
    · cases closes
  cases form with
  | requireCall => exact .inr (call h)
  | importCall => exact .inr (call h)
  | importFrom => exact .inl (Option.some.inj h)
  | importEffect => exact .inl (Option.some.inj h)
  | exportFrom => exact .inl (Option.some.inj h)

/-- A form that opens before a quote and is complete behind the specifier is found. -/
theorem scan_of_found (unquoted : Unquoted gap) (quote : isQuote q = true) (quote' : isQuote q' = true)
    (plain : Unquoted inside) (nonempty : inside ≠ []) {r : List Char}
    (complete : form.finish? rest = some r) (h : form.found inWord gap = true) :
    form.scan inWord 0 (gap ++ q :: (inside ++ q' :: rest)) =
      String.ofList inside :: form.scan false 0 r := by
  induction gap generalizing inWord with
  | nil => cases h
  | cons c cs ih =>
    have here := match?_gap form unquoted quote (inside ++ q' :: rest)
    rw [quoted?_specifier quote quote' plain nonempty, Option.bind_some, complete, Option.map_some] at here
    by_cases start : inWord = false ∧ form.opens (c :: cs) = true
    · obtain ⟨rfl, opened⟩ := start
      rw [if_pos opened] at here
      -- the find ends with the closing quote or with a parenthesis, and neither belongs to a word
      obtain ⟨mid, d, outside, reach⟩ : ∃ mid d, isWordChar d = false ∧
          cs ++ q :: (inside ++ q' :: rest) = mid ++ d :: r := by
        rcases finish?_eq_some complete with rfl | ⟨blanks, rfl⟩
        · exact ⟨cs ++ q :: inside, q', isWordChar_of_isQuote quote', by simp⟩
        · exact ⟨cs ++ q :: (inside ++ q' :: blanks), ')', by decide, by simp⟩
      rw [List.cons_append, reach] at here ⊢
      rw [scan_cons_of_some here, outside]
    · simp only [found, Bool.or_eq_true, Bool.and_eq_true, Bool.not_eq_true'] at h
      rw [List.cons_append, scan_cons_of_none]
      · exact ih unquoted.of_cons (h.resolve_left start)
      · intro outside
        have closed : ¬ form.opens (c :: cs) = true := fun opened => start ⟨outside, opened⟩
        rwa [if_neg closed, List.cons_append] at here

/-- Where no form opens before a quote, or none is complete behind the specifier, nothing is found. -/
theorem scan_of_unfound (unquoted : Unquoted gap) (quote : isQuote q = true) (quote' : isQuote q' = true)
    (plain : ∀ c ∈ inside, isQuote c = false ∧ isBlank c = false ∧ c ≠ '(') (nonempty : inside ≠ [])
    (h : form.found inWord gap = true → form.finish? rest = none) :
    form.scan inWord 0 (gap ++ q :: (inside ++ q' :: rest)) = form.scan false 0 rest := by
  induction gap generalizing inWord with
  | nil =>
    rw [List.nil_append, scan_cons_of_not_isWordChar (isWordChar_of_isQuote quote)]
    exact scan_specifier quote' plain rest
  | cons c cs ih =>
    have here := match?_gap form unquoted quote (inside ++ q' :: rest)
    rw [quoted?_specifier quote quote' (fun d mem => (plain d mem).1) nonempty, Option.bind_some] at here
    rw [List.cons_append, scan_cons_of_none]
    · apply ih unquoted.of_cons
      intro later
      exact h (by simp [found, later])
    · intro outside
      rw [List.cons_append] at here
      cases opened : form.opens (c :: cs) with
      | false => simpa [opened] using here
      | true => simpa [opened, h (by simp [found, outside, opened])] using here

end ImportForm

/-! ## Statements -/

/-- An import statement of one of the five forms: its clause, if the form has one, and its specifier in
quotes.  The clause holds no quotes and, in an export, no semicolon; the specifier is not empty and holds
no quotes, no blanks and no opening parenthesis. -/
structure ImportStatement where
  form : ImportForm
  clause : String := ""
  quote : Char := '"'
  specifier : String
  isQuote_quote : ImportForm.isQuote quote = true
  clause_unquoted : ImportForm.Unquoted clause.toList
  clause_whole : form = .exportFrom → ';' ∉ clause.toList
  specifier_ne_empty : specifier ≠ ""
  specifier_plain : ∀ c ∈ specifier.toList, ImportForm.isQuote c = false ∧ isBlank c = false ∧ c ≠ '('

namespace ImportStatement

/-- What leads from the keyword to the specifier. -/
def lead (st : ImportStatement) : String :=
  match st.form with
  | .importFrom | .exportFrom => " " ++ st.clause ++ " from "
  | .importEffect => " "
  | .requireCall | .importCall => ""

def tail (st : ImportStatement) : String :=
  match st.form with
  | .requireCall | .importCall => ")"
  | _ => ""

def head (st : ImportStatement) : String :=
  st.form.keyword ++ st.lead

def text (st : ImportStatement) : String :=
  st.head ++ (String.singleton st.quote ++ (st.specifier ++ (String.singleton st.quote ++ st.tail)))

/-- The text of statements, separated by a semicolon and a line break. -/
def script (statements : List ImportStatement) : String :=
  ";\n".intercalate (statements.map text)

/-- Whether the search for a form finds a statement. -/
def shows (form : ImportForm) (st : ImportStatement) : Bool :=
  form.found false st.head.toList && (form.finish? st.tail.toList).isSome

/-- What stands between a statement and those that follow it, with these. -/
def behind (statements : List ImportStatement) : String :=
  if statements.isEmpty then "" else ";\n" ++ script statements

variable (st : ImportStatement) (statements : List ImportStatement) {form : ImportForm}

theorem script_cons : script (st :: statements) = st.text ++ behind statements := by
  cases statements with
  | nil => simp [script, behind, String.intercalate_singleton]
  | cons next others => simp [script, behind, String.intercalate_cons_cons, String.append_assoc]

theorem endsInFrom_clause (clause : List Char) :
    ImportForm.endsInFrom (' ' :: (clause ++ " from ".toList)) = true := by
  have blank : isBlank ' ' = true := by decide
  have letter : isBlank 'm' = false := by decide
  simp [ImportForm.endsInFrom, blank, letter]

theorem toList_lead_of_clause (h : st.form = .importFrom ∨ st.form = .exportFrom) :
    st.lead.toList = ' ' :: (st.clause.toList ++ " from ".toList) := by
  rcases h with form | form <;> simp [lead, form, String.toList_append]

theorem head_unquoted : ImportForm.Unquoted st.head.toList := by
  have keyword : ImportForm.Unquoted st.form.keyword.toList := by
    apply ImportForm.unquoted_of_all
    cases st.form <;> decide
  have clause : ImportForm.Unquoted (' ' :: (st.clause.toList ++ " from ".toList)) := by
    have blank : ImportForm.Unquoted [' '] := ImportForm.unquoted_of_all (by decide)
    have from_ : ImportForm.Unquoted " from ".toList := ImportForm.unquoted_of_all (by decide)
    exact blank.append (st.clause_unquoted.append from_)
  rw [head, String.toList_append]
  apply keyword.append
  cases form : st.form with
  | importFrom => rwa [st.toList_lead_of_clause (.inl form)]
  | exportFrom => rwa [st.toList_lead_of_clause (.inr form)]
  | importEffect => simp [lead, form, ImportForm.Unquoted, ImportForm.isQuote]
  | requireCall => simp [lead, form, ImportForm.Unquoted]
  | importCall => simp [lead, form, ImportForm.Unquoted]

theorem leads_lead : st.form.leads st.lead.toList = true := by
  cases form : st.form with
  | importFrom =>
    rw [st.toList_lead_of_clause (.inl form)]
    exact endsInFrom_clause _
  | exportFrom =>
    rw [st.toList_lead_of_clause (.inr form), ImportForm.leads, endsInFrom_clause, Bool.and_true]
    have whole : ∀ c ∈ st.clause.toList, c ≠ ';' := by
      rintro c mem rfl
      exact st.clause_whole form mem
    simpa using whole
  | importEffect =>
    have blank : isBlank ' ' = true := by decide
    simp [lead, form, ImportForm.leads, blank]
  | requireCall => simp [lead, form, ImportForm.leads]
  | importCall => simp [lead, form, ImportForm.leads]

/-- The search for the form of a statement finds it. -/
theorem shows_self : st.shows st.form = true := by
  have opened : st.form.opens st.head.toList = true := by
    have front : ImportForm.after? st.form.keyword st.head.toList = some st.lead.toList := by
      rw [ImportForm.after?_eq_some_iff, head, String.toList_append]
    rw [ImportForm.opens, front, Option.any_some, leads_lead]
  rw [shows, ImportForm.found_of_opens opened, Bool.true_and, tail]
  cases st.form <;> rfl

/-- Whether a form is complete behind a specifier does not depend on the statements that follow. -/
theorem finish?_tail (form : ImportForm) :
    form.finish? (st.tail.toList ++ (behind statements).toList) =
      (form.finish? st.tail.toList).map (· ++ (behind statements).toList) := by
  have call : ImportForm.closed? (st.tail.toList ++ (behind statements).toList) =
      (ImportForm.closed? st.tail.toList).map (· ++ (behind statements).toList) := by
    have paren : isBlank ')' = false := by decide
    have semicolon : isBlank ';' = false := by decide
    rw [tail, behind]
    cases st.form <;> cases statements <;>
      simp [ImportForm.closed?, paren, semicolon, String.toList_append]
  cases form with
  | requireCall => exact call
  | importCall => exact call
  | importFrom => rfl
  | importEffect => rfl
  | exportFrom => rfl

theorem scan_outside {outside : List Char} (h : ∀ c ∈ outside, isWordChar c = false) (cs : List Char) :
    form.scan false 0 (outside ++ cs) = form.scan false 0 cs := by
  induction outside with
  | nil => rfl
  | cons c outside ih =>
    rw [List.cons_append, ImportForm.scan_cons_of_not_isWordChar (h c (by simp))]
    exact ih fun d mem => h d (by simp [mem])

/-- What stands between two statements holds no word, so the search starts afresh. -/
theorem scan_behind {left : List Char} (h : ∀ c ∈ left, isWordChar c = false) :
    form.scan false 0 (left ++ (behind statements).toList) = form.scan false 0 (script statements).toList := by
  rw [scan_outside h, behind]
  cases statements with
  | nil => rfl
  | cons st rest =>
    rw [if_neg (by simp), String.toList_append]
    apply scan_outside
    simp only [String.reduceToList, List.mem_cons, List.not_mem_nil, or_false]
    rintro c (rfl | rfl) <;> decide

theorem not_isWordChar_of_mem_tail {c : Char} (h : c ∈ st.tail.toList) : isWordChar c = false := by
  have paren : isWordChar ')' = false := by decide
  rw [tail] at h
  split at h <;> simp_all

/-- The search for one form finds the specifiers of the statements that show it. -/
theorem specifiers_script (form : ImportForm) :
    form.specifiers (script statements) = (statements.filter (shows form)).map specifier := by
  rw [ImportForm.specifiers]
  induction statements with
  | nil => rfl
  | cons st rest ih =>
    have unquoted : ImportForm.Unquoted st.specifier.toList := fun c mem => (st.specifier_plain c mem).1
    have nonempty : st.specifier.toList ≠ [] := by simpa using st.specifier_ne_empty
    have split : (script (st :: rest)).toList = st.head.toList ++ st.quote ::
        (st.specifier.toList ++ st.quote :: (st.tail.toList ++ (behind rest).toList)) := by
      simp [script_cons, text, String.toList_append]
    have whole := st.finish?_tail rest form
    rw [split]
    cases shown : shows form st with
    | true =>
      obtain ⟨found, left, complete⟩ : form.found false st.head.toList = true ∧
          ∃ left, form.finish? st.tail.toList = some left := by
        simpa [shows, Option.isSome_iff_exists] using shown
      have outside : ∀ c ∈ left, isWordChar c = false := by
        intro c mem
        apply st.not_isWordChar_of_mem_tail
        rcases ImportForm.finish?_eq_some complete with same | ⟨blanks, same⟩ <;> simp [same, mem]
      rw [complete, Option.map_some] at whole
      rw [ImportForm.scan_of_found st.head_unquoted st.isQuote_quote st.isQuote_quote unquoted nonempty whole
        found, scan_behind rest outside, ih]
      simp [shown]
    | false =>
      rw [ImportForm.scan_of_unfound st.head_unquoted st.isQuote_quote st.isQuote_quote st.specifier_plain
        nonempty, scan_behind rest fun c => st.not_isWordChar_of_mem_tail, ih]
      · simp [shown]
      · intro found
        have incomplete : form.finish? st.tail.toList = none := by simpa [shows, found] using shown
        rw [whole, incomplete, Option.map_none]

end ImportStatement

theorem isFileSpecifier_eq_false_iff {specifier : String} :
    isFileSpecifier specifier = false ↔
      specifier.toList.head? ≠ some '.' ∧ specifier.toList.head? ≠ some '/' := by
  rw [isFileSpecifier, startsWith, startsWith]
  cases specifier.toList with
  | nil => decide
  | cons c rest => simp [List.isPrefixOf, eq_comm (a := c)]

/-- The packages of a script are those of its statements, apart from specifiers that start with a dot or a
slash and lead to files. -/
theorem mem_importedPackages_script (statements : List ImportStatement) (package : String) :
    package ∈ importedPackages (ImportStatement.script statements) ↔
      ∃ st ∈ statements, st.specifier.toList.head? ≠ some '.' ∧ st.specifier.toList.head? ≠ some '/' ∧
        Package.ofSpecifier st.specifier = package := by
  simp only [importedPackages, List.mem_eraseDups, List.mem_map, List.mem_filter, List.mem_flatMap,
    ImportStatement.specifiers_script, Bool.not_eq_true', isFileSpecifier_eq_false_iff]
  constructor
  · rintro ⟨specifier, ⟨⟨form, -, st, ⟨mem, -⟩, rfl⟩, noDot, noSlash⟩, rfl⟩
    exact ⟨st, mem, noDot, noSlash, rfl⟩
  · rintro ⟨st, mem, noDot, noSlash, rfl⟩
    refine ⟨st.specifier, ⟨⟨st.form, ?_, st, ⟨mem, st.shows_self⟩, rfl⟩, noDot, noSlash⟩, rfl⟩
    cases st.form <;> decide

theorem ImportStatement.plain_of_all {specifier : String}
    (h : specifier.toList.all (fun c => !ImportForm.isQuote c && !isBlank c && c != '(') = true) :
    ∀ c ∈ specifier.toList, ImportForm.isQuote c = false ∧ isBlank c = false ∧ c ≠ '(' := by
  intro c mem
  simpa [and_assoc] using List.all_eq_true.1 h c mem

/-- A statement of each form: a clause that looks like a call, two files, and a package named twice. -/
def fiveStatements : List ImportStatement :=
  [⟨.importFrom, "a, require(", '\'', "lodash/fp", by decide, ImportForm.unquoted_of_all (by decide),
      by decide, by decide, ImportStatement.plain_of_all (by decide)⟩,
   ⟨.importEffect, "", '"', "./b", by decide, ImportForm.unquoted_of_all (by decide),
      by decide, by decide, ImportStatement.plain_of_all (by decide)⟩,
   ⟨.exportFrom, "*", '"', "lodash", by decide, ImportForm.unquoted_of_all (by decide),
      by decide, by decide, ImportStatement.plain_of_all (by decide)⟩,
   ⟨.requireCall, "", '\'', "@scope/pkg/x", by decide, ImportForm.unquoted_of_all (by decide),
      by decide, by decide, ImportStatement.plain_of_all (by decide)⟩,
   ⟨.importCall, "", '"', "/c", by decide, ImportForm.unquoted_of_all (by decide),
      by decide, by decide, ImportStatement.plain_of_all (by decide)⟩]

theorem mem_importedPackages_script_five :
    ImportStatement.script fiveStatements = "import a, require( from 'lodash/fp';\nimport \"./b\";\n" ++
        "export * from \"lodash\";\nrequire('@scope/pkg/x');\nimport(\"/c\")" ∧
      ∀ package, package ∈ importedPackages (ImportStatement.script fiveStatements) ↔
        package = "lodash" ∨ package = "@scope/pkg" := by
  refine ⟨by decide +kernel, fun package => ?_⟩
  have names : ["lodash/fp", "lodash", "@scope/pkg/x"].map Package.ofSpecifier =
      ["lodash", "lodash", "@scope/pkg"] := by decide +kernel
  simp only [List.map_cons, List.map_nil, List.cons.injEq, and_true] at names
  rw [mem_importedPackages_script]
  simp [fiveStatements, names, eq_comm]

end RepoAudit

import Mathlib.Data.List.Induction
import Mathlib.Data.List.TakeWhile
import RepoAudit.Proofs.Text.Ends

/-! # Paths and their parts

A path is known by its parts between the slashes.  Seen this way, a specifier is a walk: it starts in the
directory of the file that imports and follows one part after the other, where `..` goes up and an empty
part or `.` stays.  Normalising a joined path is such a walk, as long as it does not leave the repository.

* `splitOn_joinWith`, `joinWith_splitOn` – a path and its parts;
* `Path.IsNormal` – a path without empty parts, `.` and `..`;
* `Path.follow?` – where a row of parts leads;
* `Path.relative` – the shortest row of parts that leads from a directory to a file;
* `follow?_relative` – it leads there;
* `normalize_join` – the normalised path is the place that the walk leads to.
-/

namespace RepoAudit

namespace Text

theorem splitOn_append (sep : Char) (s t : String) :
    splitOn sep (s ++ String.singleton sep ++ t) = splitOn sep s ++ splitOn sep t := by
  simp [splitOn, String.toList_append, splitChars_append_cons]

theorem splitOn_of_notMem {sep : Char} {s : String} (h : sep ∉ s.toList) : splitOn sep s = [s] := by
  simp [splitOn, splitChars_of_notMem h]

theorem splitOn_ne_nil (sep : Char) (s : String) : splitOn sep s ≠ [] := by
  simp [splitOn, splitChars_ne_nil]

theorem joinWith_append {parts more : List String} (sep : Char) (h : parts ≠ []) (h' : more ≠ []) :
    joinWith sep (parts ++ more) = joinWith sep parts ++ String.singleton sep ++ joinWith sep more := by
  rw [← String.toList_inj, toList_joinWith_append sep h h']
  simp [String.toList_append]

/-- Parts without the separator can be joined and cut again. -/
theorem splitOn_joinWith {sep : Char} {parts : List String} (h : parts ≠ [])
    (plain : ∀ part ∈ parts, sep ∉ part.toList) : splitOn sep (joinWith sep parts) = parts := by
  induction parts with
  | nil => exact absurd rfl h
  | cons part rest ih =>
    have single := splitOn_of_notMem (plain part (by simp))
    by_cases last : rest = []
    · rw [last, joinWith_singleton, single]
    · rw [← List.singleton_append, joinWith_append sep (by simp) last, splitOn_append,
        joinWith_singleton, single, ih last fun p mem => plain p (by simp [mem])]

theorem notMem_of_mem_splitChars {sep : Char} {cs part : List Char} (h : part ∈ splitChars sep cs) :
    sep ∉ part := by
  induction cs generalizing part with
  | nil => simp_all [splitChars]
  | cons c rest ih =>
    rw [splitChars] at h
    split at h
    · rcases List.mem_cons.1 h with rfl | later
      · simp
      · exact ih later
    · rename_i other
      split at h
      · rename_i first parts cut
        rcases List.mem_cons.1 h with rfl | later
        · simpa [Ne.symm other] using ih (cut ▸ List.mem_cons_self)
        · exact ih (cut ▸ List.mem_cons_of_mem _ later)
      · rename_i cut
        exact absurd cut (splitChars_ne_nil sep rest)

theorem notMem_of_mem_splitOn {sep : Char} {s part : String} (h : part ∈ splitOn sep s) :
    sep ∉ part.toList := by
  obtain ⟨cs, mem, rfl⟩ := List.mem_map.1 h
  simpa using notMem_of_mem_splitChars mem

theorem intercalate_splitChars (sep : Char) (cs : List Char) :
    [sep].intercalate (splitChars sep cs) = cs := by
  induction cs with
  | nil => rfl
  | cons c rest ih =>
    rw [splitChars]
    cases cut : splitChars sep rest with
    | nil => exact absurd cut (splitChars_ne_nil sep rest)
    | cons part parts =>
      rw [cut] at ih
      split
      · rename_i same
        simp [List.intercalate_cons_cons, ih, same]
      · cases parts <;> simp_all [List.intercalate]

/-- A path can be put together from its parts. -/
theorem joinWith_splitOn (sep : Char) (s : String) : joinWith sep (splitOn sep s) = s := by
  rw [← String.toList_inj, joinWith, String.toList_intercalate, splitOn, List.map_map]
  simpa [Function.comp_def] using intercalate_splitChars sep s.toList

end Text

namespace Path

open Text

/-! ## Normal paths -/

/-- Whether a path has no part that normalising removes: every part between slashes is the name of a
file or of a directory in the repository. -/
def IsNormal (path : String) : Prop :=
  ∀ part ∈ splitOn '/' path, part ≠ "" ∧ part ≠ "." ∧ part ≠ ".."

instance (path : String) : Decidable (IsNormal path) :=
  inferInstanceAs (Decidable (∀ part ∈ splitOn '/' path, _))

/-- Whether parts are names that stay what they are when a path is normalised. -/
def AreNames (parts : List String) : Prop :=
  ∀ part ∈ parts, part ≠ "" ∧ part ≠ "." ∧ part ≠ ".." ∧ '/' ∉ part.toList

theorem IsNormal.areNames {path : String} (h : IsNormal path) : AreNames (splitOn '/' path) := by
  intro part mem
  obtain ⟨nonempty, noDot, noDots⟩ := h part mem
  exact ⟨nonempty, noDot, noDots, notMem_of_mem_splitOn mem⟩

theorem AreNames.append {parts more : List String} (h : AreNames parts) (h' : AreNames more) :
    AreNames (parts ++ more) := by
  intro part mem
  rcases List.mem_append.1 mem with first | second
  · exact h part first
  · exact h' part second

theorem areNames_singleton {part : String} (moves : ¬ (part = "" ∨ part = ".")) (down : part ≠ "..")
    (plain : '/' ∉ part.toList) : AreNames [part] := by
  intro name mem
  obtain rfl := List.mem_singleton.1 mem
  rw [not_or] at moves
  exact ⟨moves.1, moves.2, down, plain⟩

theorem AreNames.of_subset {parts more : List String} (h : AreNames more) (sub : parts ⊆ more) :
    AreNames parts :=
  fun part mem => h part (sub mem)

theorem AreNames.splitOn_joinWith {parts : List String} (h : AreNames parts) (some_part : parts ≠ []) :
    splitOn '/' (joinWith '/' parts) = parts :=
  Text.splitOn_joinWith some_part fun part mem => (h part mem).2.2.2

theorem AreNames.empty_notMem_splitOn {parts : List String} (h : AreNames parts) (some_part : parts ≠ []) :
    "" ∉ splitOn '/' (joinWith '/' parts) := by
  rw [h.splitOn_joinWith some_part]
  intro blank
  exact (h "" blank).1 rfl

theorem AreNames.joinWith_ne_empty {parts : List String} (h : AreNames parts) (some_part : parts ≠ []) :
    joinWith '/' parts ≠ "" := by
  intro empty
  apply h.empty_notMem_splitOn some_part
  rw [empty]
  decide

/-- A path of names does not start with a slash. -/
theorem AreNames.head?_joinWith {parts : List String} (h : AreNames parts) :
    (joinWith '/' parts).toList.head? ≠ some '/' := by
  intro slash
  by_cases none_at_all : parts = []
  · subst none_at_all
    cases slash
  · obtain ⟨rest, chars⟩ := List.head?_eq_some_iff.1 slash
    have cut : joinWith '/' parts = "" ++ String.singleton '/' ++ String.ofList rest := by
      rw [← String.toList_inj, chars]
      simp [String.toList_append]
    apply h.empty_notMem_splitOn none_at_all
    rw [cut, splitOn_append]
    exact List.mem_append_left _ (by decide)

/-- A path of names does not end with a slash. -/
theorem AreNames.getLast?_joinWith {parts : List String} (h : AreNames parts) :
    (joinWith '/' parts).toList.getLast? ≠ some '/' := by
  intro slash
  by_cases none_at_all : parts = []
  · subst none_at_all
    cases slash
  · obtain ⟨front, chars⟩ := List.getLast?_eq_some_iff.1 slash
    have cut : joinWith '/' parts = String.ofList front ++ String.singleton '/' ++ "" := by
      rw [← String.toList_inj, chars]
      simp [String.toList_append]
    apply h.empty_notMem_splitOn none_at_all
    rw [cut, splitOn_append]
    exact List.mem_append_right _ (by decide)

/-! ## Walks -/

/-- Where parts lead from a place in the repository, one after the other.  An empty part and `.` stay,
`..` goes up, and any other part goes down.  Nothing if a part leads out of the repository. -/
def follow? (place : List String) : List String → Option (List String)
  | [] => some place
  | part :: parts =>
    if part = "" ∨ part = "." then follow? place parts
    else if part = ".." then
      if place = [] then none else follow? place.dropLast parts
    else follow? (place ++ [part]) parts

/-- The shortest row of parts that leads from a directory to a file: up to the last directory that is
above both, then down. -/
def relative : List String → List String → List String
  | dir :: dirs, part :: parts =>
    if dir = part then relative dirs parts
    else List.replicate (dirs.length + 1) ".." ++ part :: parts
  | dirs, parts => List.replicate dirs.length ".." ++ parts

theorem relative_eq (dirs parts : List String) :
    ∃ common up down, dirs = common ++ up ∧ parts = common ++ down ∧
      relative dirs parts = List.replicate up.length ".." ++ down := by
  fun_induction relative dirs parts with
  | case1 dirs part parts ih =>
    obtain ⟨common, up, down, rfl, rfl, same⟩ := ih
    exact ⟨part :: common, up, down, rfl, rfl, same⟩
  | case2 dir dirs part parts other => exact ⟨[], dir :: dirs, part :: parts, rfl, rfl, rfl⟩
  | case3 dirs parts _ => exact ⟨[], dirs, parts, rfl, rfl, rfl⟩

theorem slash_notMem_relative {dirs parts : List String} (h : AreNames parts) :
    ∀ part ∈ relative dirs parts, '/' ∉ part.toList := by
  obtain ⟨common, up, down, -, rfl, shortest⟩ := relative_eq dirs parts
  intro part mem
  rw [shortest, List.mem_append] at mem
  rcases mem with above | below
  · rw [List.eq_of_mem_replicate above]
    decide
  · exact (h part (by simp [below])).2.2.2

/-- As many `..` as there are directories lead up out of them. -/
theorem follow?_up (place up parts : List String) :
    follow? (place ++ up) (List.replicate up.length ".." ++ parts) = follow? place parts := by
  induction up using List.reverseRecOn with
  | nil => simp
  | append_singleton up dir ih =>
    rw [List.length_append, List.length_singleton, List.replicate_succ, List.cons_append, follow?,
      ← List.append_assoc, List.dropLast_concat]
    simpa using ih

/-- Names lead down. -/
theorem follow?_names {names : List String} (h : AreNames names) (place parts : List String) :
    follow? place (names ++ parts) = follow? (place ++ names) parts := by
  induction names generalizing place with
  | nil => simp
  | cons name rest ih =>
    obtain ⟨nonempty, noDot, noDots, -⟩ := h name (by simp)
    rw [List.cons_append, follow?]
    simp [nonempty, noDot, noDots, ih (h.of_subset (by simp))]

/-- The relative path from a directory to a file leads there. -/
theorem follow?_relative {dirs parts : List String} (h : AreNames parts) :
    follow? dirs (relative dirs parts) = some parts := by
  obtain ⟨common, up, down, rfl, rfl, shortest⟩ := relative_eq dirs parts
  rw [shortest, follow?_up, ← List.append_nil down, follow?_names (h.of_subset (by simp)), follow?,
    List.append_nil]

/-- A walk stays among names. -/
theorem areNames_of_follow? {place parts goal : List String} (h : AreNames place)
    (plain : ∀ part ∈ parts, '/' ∉ part.toList) (led : follow? place parts = some goal) :
    AreNames goal := by
  induction parts generalizing place with
  | nil => exact Option.some.inj led ▸ h
  | cons part rest ih =>
    have plain' : ∀ p ∈ rest, '/' ∉ p.toList := fun p mem => plain p (by simp [mem])
    rw [follow?] at led
    split at led
    · exact ih h plain' led
    · rename_i moves
      split at led
      · split at led
        · cases led
        · exact ih (h.of_subset (List.dropLast_subset _)) plain' led
      · rename_i down
        have name := areNames_singleton moves down (plain part (by simp))
        exact ih (h.append name) plain' led

/-! ## Walks and normalised paths -/

theorem push_stay {absolute : Bool} {parts : List String} {part : String} (h : part = "" ∨ part = ".") :
    push absolute parts part = parts := by
  simp [push, h]

theorem push_up {absolute : Bool} {parts : List String} {last : String} (h : last ≠ "..") :
    push absolute (last :: parts) ".." = parts := by
  simp [push, h]

theorem push_down {absolute : Bool} {parts : List String} {part : String} (moves : ¬ (part = "" ∨ part = "."))
    (down : part ≠ "..") : push absolute parts part = part :: parts := by
  simp [push, moves, down]

/-- Adding parts one after the other, where the parts so far stand last first, is a walk. -/
theorem foldl_push {place parts goal : List String} (h : AreNames place)
    (plain : ∀ part ∈ parts, '/' ∉ part.toList) (led : follow? place parts = some goal) :
    parts.foldl (push false) place.reverse = goal.reverse := by
  induction parts generalizing place with
  | nil => rw [Option.some.inj led, List.foldl_nil]
  | cons part rest ih =>
    have plain' : ∀ p ∈ rest, '/' ∉ p.toList := fun p mem => plain p (by simp [mem])
    rw [follow?] at led
    rw [List.foldl_cons]
    split at led
    · rename_i stays
      rw [push_stay stays]
      exact ih h plain' led
    · rename_i moves
      split at led
      · rename_i up
        split at led
        · cases led
        · rename_i inside
          obtain ⟨above, last, rfl⟩ := (List.eq_nil_or_concat' place).resolve_left inside
          rw [List.dropLast_concat] at led
          rw [up, List.reverse_append, List.reverse_singleton, List.singleton_append,
            push_up (h last (by simp)).2.2.1]
          exact ih (h.of_subset (by simp)) plain' led
      · rename_i down
        have name := areNames_singleton moves down (plain part (by simp))
        rw [push_down moves down]
        simpa using ih (h.append name) plain' led

theorem rootSlashes_eq_zero {path : String} (h : path.toList.head? ≠ some '/') : rootSlashes path = 0 := by
  cases chars : path.toList with
  | nil => simp [rootSlashes, startsWith, chars]
  | cons c rest =>
    have other : ¬ '/' = c := by
      rintro rfl
      exact h (by rw [chars, List.head?_cons])
    simp [rootSlashes, startsWith, chars, other]

/-- A walk from the root gives the parts of the normalised path; the root itself is a dot. -/
theorem normalize_of_follow? {path : String} {goal : List String} (h : path.toList.head? ≠ some '/')
    (led : follow? [] (splitOn '/' path) = some goal) :
    normalize path = if goal = [] then "." else joinWith '/' goal := by
  have plain : ∀ part ∈ splitOn '/' path, '/' ∉ part.toList := fun part mem =>
    notMem_of_mem_splitOn mem
  have none_yet : AreNames [] := by simp [AreNames]
  have names := areNames_of_follow? none_yet plain led
  have pushed : (splitOn '/' path).foldl (push false) [] = goal.reverse :=
    foldl_push none_yet plain led
  unfold normalize
  rw [rootSlashes_eq_zero h]
  simp only [bne_self_eq_false, pushed, List.reverse_reverse, List.replicate_zero]
  by_cases root : goal = []
  · subst root
    rfl
  · have visible := names.joinWith_ne_empty root
    simp [root, visible]

/-! ## Directories of paths -/

theorem directory_of_notMem {path : String} (h : '/' ∉ path.toList) : directory path = "" := by
  have passed : path.toList.reverse.dropWhile (· != '/') = [] := by
    rw [List.dropWhile_eq_nil_iff]
    intro c mem
    rw [List.mem_reverse] at mem
    simpa using fun same : c = '/' => h (same ▸ mem)
  rw [directory, passed]
  rfl

/-- What stands before the last slash, when no slash stands before that one. -/
theorem directory_append {dir last : String} (nonempty : dir ≠ "") (h : dir.toList.getLast? ≠ some '/')
    (plain : '/' ∉ last.toList) : directory (dir ++ "/" ++ last) = dir := by
  obtain ⟨front, c, chars⟩ := (List.eq_nil_or_concat' dir.toList).resolve_left (by simpa using nonempty)
  have visible : c ≠ '/' := by
    rintro rfl
    exact h (by rw [chars, List.getLast?_concat])
  have skipped : ∀ d ∈ last.toList.reverse, (d != '/') = true := by
    intro d mem
    rw [List.mem_reverse] at mem
    simpa using fun same : d = '/' => plain (same ▸ mem)
  have head : (dir ++ "/" ++ last).toList.reverse.dropWhile (· != '/') = '/' :: dir.toList.reverse := by
    simp [String.toList_append, List.dropWhile_append_of_pos skipped]
  obtain rfl : dir = String.ofList (front ++ [c]) := by rw [← chars, String.ofList_toList]
  unfold directory
  rw [head]
  simp [allSlashes, visible]

/-- The directory of a path is made of all its parts but the last. -/
theorem directory_joinWith {parts : List String} {last : String} (h : AreNames parts)
    (plain : '/' ∉ last.toList) : directory (joinWith '/' (parts ++ [last])) = joinWith '/' parts := by
  by_cases alone : parts = []
  · rw [alone, List.nil_append, joinWith_singleton, directory_of_notMem plain]
    rfl
  · rw [joinWith_append '/' alone (by simp), joinWith_singleton]
    exact directory_append (h.joinWith_ne_empty alone) h.getLast?_joinWith plain

theorem IsNormal.directory {path : String} (h : IsNormal path) :
    directory path = joinWith '/' (splitOn '/' path).dropLast := by
  have whole := List.dropLast_append_getLast (splitOn_ne_nil '/' path)
  have names := h.areNames
  rw [← whole] at names
  calc Path.directory path
      = Path.directory (joinWith '/' ((splitOn '/' path).dropLast ++ [(splitOn '/' path).getLast _])) := by
        rw [whole, joinWith_splitOn]
    _ = joinWith '/' (splitOn '/' path).dropLast :=
        directory_joinWith (names.of_subset (by simp)) (names _ (by simp)).2.2.2

/-- What does not start with a slash is put behind a directory. -/
theorem join_joinWith {dirs : List String} {path : String} (h : AreNames dirs) (below : dirs ≠ [])
    (relative : startsWith path "/" = false) :
    join (joinWith '/' dirs) path = joinWith '/' dirs ++ String.singleton '/' ++ path := by
  have nonempty := h.joinWith_ne_empty below
  have unended : endsWith (joinWith '/' dirs) "/" = false := by
    rw [endsWith, Bool.eq_false_iff, ne_eq, List.isSuffixOf_iff_suffix]
    rintro ⟨front, whole⟩
    exact h.getLast?_joinWith (List.getLast?_eq_some_iff.2 ⟨front, whole.symm⟩)
  simp [join, relative, nonempty, unended]

/-- A specifier that starts with a dot adds its parts to those of the directory. -/
theorem splitOn_join {dirs : List String} {specifier : String} (h : AreNames dirs)
    (dotted : startsWith specifier "." = true) :
    (join (joinWith '/' dirs) specifier).toList.head? ≠ some '/' ∧
      splitOn '/' (join (joinWith '/' dirs) specifier) = dirs ++ splitOn '/' specifier := by
  obtain ⟨rest, chars⟩ := List.isPrefixOf_iff_prefix.1 dotted
  have relative : startsWith specifier "/" = false := by
    rw [startsWith, ← chars]
    rfl
  by_cases root : dirs = []
  · have same : join (joinWith '/' dirs) specifier = specifier := by
      simp [join, relative, root, joinWith]
    rw [same, root, ← chars]
    simp
  · rw [join_joinWith h root relative, splitOn_append, h.splitOn_joinWith root]
    refine ⟨?_, rfl⟩
    rw [String.toList_append, String.toList_append, List.append_assoc, List.head?_append_of_ne_nil]
    · exact h.head?_joinWith
    · simpa using h.joinWith_ne_empty root

/-- A specifier that starts with a dot, seen from a file: the normalised path is the place that the
parts of the specifier lead to from the directory of the file, and a dot for the root. -/
theorem normalize_join {path specifier : String} {goal : List String} (h : IsNormal path)
    (dotted : startsWith specifier "." = true)
    (led : follow? (splitOn '/' path).dropLast (splitOn '/' specifier) = some goal) :
    normalize (join (directory path) specifier) = if goal = [] then "." else joinWith '/' goal := by
  have names : AreNames (splitOn '/' path).dropLast := h.areNames.of_subset (List.dropLast_subset _)
  obtain ⟨relative, cut⟩ := splitOn_join names dotted
  rw [h.directory]
  refine normalize_of_follow? relative ?_
  rw [cut, follow?_names names, List.nil_append]
  exact led

end Path

end RepoAudit

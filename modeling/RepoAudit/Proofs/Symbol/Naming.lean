import Mathlib.Data.List.Basic
import RepoAudit.Proofs.Symbol.Program

/-! # Qualified names tell declarations apart

A qualified name is one text, put together from the path of a module and the own names of a node and
its containers.  The text can be taken apart again: the path ends at the second quote, a dot ends every
own name but the last, and the label of a function without a name tells the line and the column, hence
the byte, where the function starts.

* `nameNodes` – the nodes that contribute to a name, from the outside in;
* `eq_of_row_eq_of_column_eq` – a line and a column determine a byte;
* `positionLabel_inj` – the label of a function tells where it starts;
* `qualifiedName_inj` – equal names come from equal paths, equal own names and equal starts.
-/

namespace RepoAudit

open Syntax

/-- What stands before the first separator, and what stands after it. -/
theorem eq_and_eq_of_append_cons {α : Type} {sep : α} {a a' b b' : List α} (ha : sep ∉ a)
    (ha' : sep ∉ a') (h : a ++ sep :: b = a' ++ sep :: b') : a = a' ∧ b = b' := by
  induction a generalizing a' with
  | nil =>
    cases a' with
    | nil => simpa using h
    | cons x rest =>
      obtain ⟨rfl, -⟩ := List.cons.inj h
      simp at ha'
  | cons x rest ih =>
    cases a' with
    | nil =>
      obtain ⟨rfl, -⟩ := List.cons.inj h
      simp at ha
    | cons x' rest' =>
      obtain ⟨rfl, tails⟩ := List.cons.inj h
      simp only [List.mem_cons, not_or] at ha ha'
      obtain ⟨rfl, rfl⟩ := ih ha.2 ha'.2 tails
      exact ⟨rfl, rfl⟩

namespace Source

variable (f : Source)

/-! ## Places in a file -/

theorem row_lt_or_column_lt {o o' : Nat} (less : o < o') (inside : o' ≤ f.bytes.length) :
    f.row o < f.row o' ∨ f.row o = f.row o' ∧ f.column o < f.column o' := by
  -- the bytes before `o'` are those before `o` and some more, with a line end among these or not
  obtain ⟨n, rfl⟩ := Nat.exists_eq_add_of_lt less
  have split : f.bytes.take (o + n + 1) = f.bytes.take o ++ (f.bytes.drop o).take (n + 1) := by
    rw [Nat.add_assoc, List.take_add]
  have length : ((f.bytes.drop o).take (n + 1)).length = n + 1 := by
    rw [List.length_take, List.length_drop]
    omega
  by_cases crossed : lineEnd ∈ (f.bytes.drop o).take (n + 1)
  · left
    have counted := List.count_pos_iff.2 crossed
    simp only [row, split, List.count_append]
    omega
  · right
    have rows : f.row o = f.row (o + n + 1) := by
      simp [row, split, List.count_eq_zero_of_not_mem crossed]
    refine ⟨rows, ?_⟩
    have passed : ∀ b ∈ ((f.bytes.drop o).take (n + 1)).reverse, (b != lineEnd) = true := by
      intro b mem
      rw [List.mem_reverse] at mem
      simpa using fun same : b = lineEnd => crossed (same ▸ mem)
    simp only [column, split, List.reverse_append, List.takeWhile_append_of_pos passed,
      List.length_append, List.length_reverse, length]
    omega

/-- A line and a column determine a byte of the file. -/
theorem eq_of_row_eq_of_column_eq {o o' : Nat} (inside : o ≤ f.bytes.length)
    (inside' : o' ≤ f.bytes.length) (rows : f.row o = f.row o')
    (columns : f.column o = f.column o') : o = o' := by
  rcases Nat.lt_trichotomy o o' with less | same | less
  · have := f.row_lt_or_column_lt less inside'
    omega
  · exact same
  · have := f.row_lt_or_column_lt less inside
    omega

theorem colon_notMem_toList_toString (n : Nat) : ':' ∉ (toString n).toList := by
  intro mem
  rw [Nat.toString_eq_ofList_toDigits, String.toList_ofList] at mem
  have digit := Nat.isDigit_of_mem_toDigits (by decide) (by decide) mem
  exact absurd digit (by decide)

/-- The digits of a number determine it. -/
theorem eq_of_toList_toString_eq {n n' : Nat} (h : (toString n).toList = (toString n').toList) :
    n = n' := by
  have numbers := congrArg (fun digits => Nat.ofDigitChars 10 digits 0) h
  simpa [Nat.toString_eq_ofList_toDigits] using numbers

/-- The label of a function tells the line and the column where it starts. -/
theorem positionLabel_inj {n n' : Node} (inside : n.start ≤ f.bytes.length)
    (inside' : n'.start ≤ f.bytes.length) (same : f.positionLabel n = f.positionLabel n') :
    n.start = n'.start := by
  have chars := congrArg String.toList same
  simp only [positionLabel, String.toList_append, List.append_assoc, List.append_cancel_left_eq] at chars
  obtain ⟨lines, rest⟩ := eq_and_eq_of_append_cons (colon_notMem_toList_toString _)
    (colon_notMem_toList_toString _) chars
  have columns : (toString (f.column n.start)).toList = (toString (f.column n'.start)).toList := by
    apply List.append_cancel_right
    exact rest
  have row : f.firstLine n = f.firstLine n' := eq_of_toList_toString_eq lines
  exact f.eq_of_row_eq_of_column_eq inside inside' (Nat.succ.inj row)
    (eq_of_toList_toString_eq columns)

/-! ## Names and their parts -/

/-- The nodes that contribute to the name of a node, from the outside in: the containers around it, and
the node itself at the end. -/
def nameNodes (c : Cursor) : List Cursor :=
  (c :: containers c).reverse

/-- Whether a node is a function that is known by its position only. -/
def isUnnamed (c : Cursor) : Bool :=
  c.kind.isFunctionExpression && (f.boundName? c).isNone

theorem ownName?_of_isUnnamed {c : Cursor} (h : f.isUnnamed c = true) :
    f.ownName? c = some (f.positionLabel c.node) := by
  simp only [isUnnamed, Bool.and_eq_true, Option.isNone_iff_eq_none] at h
  obtain ⟨kind, unbound⟩ := h
  have other : (c.kind.isFunctionDeclaration || c.kind.isNamespace || c.kind == "class_declaration"
      || c.kind == "abstract_class_declaration") = false ∧ (c.kind == "method_definition") = false := by
    simp only [Kind.isFunctionExpression, Kind.functionExpressions, List.contains_iff_mem,
      List.mem_cons, List.not_mem_nil, or_false] at kind
    rcases kind with h | h | h | h <;> rw [h] <;> decide
  simp [ownName?, other, unbound, kind]

theorem mapM_eq_some_iff {α β : Type} {g : α → Option β} {as : List α} {bs : List β} :
    as.mapM g = some bs ↔ as.map g = bs.map some := by
  induction as generalizing bs with
  | nil => cases bs <;> simp
  | cons a rest ih =>
    cases bs with
    | nil =>
      rw [List.mapM_cons]
      cases g a <;> cases rest.mapM g <;> simp
    | cons b rest' =>
      rw [List.mapM_cons, List.map_cons, List.map_cons, List.cons.injEq, ← ih]
      cases g a <;> cases rest.mapM g <;> simp

/-- The own names of the contributing nodes are the parts of the name. -/
theorem map_ownName?_nameNodes {c : Cursor} {parts : List String} (h : f.nameParts? c = some parts) :
    (nameNodes c).map f.ownName? = parts.map some := by
  obtain ⟨reversed, each, rfl⟩ := Option.map_eq_some_iff.1 h
  rw [nameNodes, List.map_reverse, mapM_eq_some_iff.1 each, List.map_reverse]

/-- A name has a part, and its parts hold no dots if no own name does. -/
theorem parts_plain {c : Cursor} {parts : List String}
    (owns : (nameNodes c).map f.ownName? = parts.map some)
    (undotted : ∀ b ∈ nameNodes c, ∀ own ∈ f.ownName? b, '.' ∉ own.toList) :
    parts ≠ [] ∧ ∀ part ∈ parts, '.' ∉ part.toList := by
  constructor
  · rintro rfl
    simp [nameNodes] at owns
  · intro part mem
    have own : some part ∈ (nameNodes c).map f.ownName? := owns ▸ List.mem_map_of_mem mem
    obtain ⟨b, contributes, named⟩ := List.mem_map.1 own
    exact undotted b contributes part named

theorem mem_nameNodes {c b : Cursor} (h : b ∈ nameNodes c) : b = c ∨ b ∈ c.ancestors := by
  simp only [nameNodes, containers, List.mem_reverse, List.mem_cons, List.mem_filter] at h
  exact h.imp_right fun inside => List.takeWhile_subset _ inside.1

variable {f}

/-- A name without quotes in its path and without dots in its parts can be taken apart. -/
theorem path_eq_and_parts_eq {f' : Source} {parts parts' : List String} (some_part : parts ≠ [])
    (some_part' : parts' ≠ []) (unquoted : '"' ∉ f.path.toList) (unquoted' : '"' ∉ f'.path.toList)
    (undotted : ∀ part ∈ parts, '.' ∉ part.toList) (undotted' : ∀ part ∈ parts', '.' ∉ part.toList)
    (same : f.modulePart ++ ".".intercalate parts = f'.modulePart ++ ".".intercalate parts') :
    f.path = f'.path ∧ parts = parts' := by
  have chars := congrArg String.toList same
  simp only [modulePart, String.toList_append, String.toList_intercalate, List.append_assoc,
    List.append_cancel_left_eq] at chars
  obtain ⟨paths, rest⟩ := eq_and_eq_of_append_cons unquoted unquoted' chars
  have joined : ['.'].intercalate (parts.map String.toList) =
      ['.'].intercalate (parts'.map String.toList) := (List.cons.inj rest).2
  have cut := congrArg (List.splitOn '.') joined
  rw [List.splitOn_intercalate _ (by simpa using undotted) (by simpa using some_part),
    List.splitOn_intercalate _ (by simpa using undotted') (by simpa using some_part')] at cut
  exact ⟨String.toList_inj.1 paths, List.map_injective_iff.2 (fun _ _ => String.toList_inj.1) cut⟩

def StartsInside (f : Source) : Prop :=
  ∀ c, f.root.Within c → c.node.start ≤ f.bytes.length

theorem StartsInside.nameNode (h : f.StartsInside) {c b : Cursor} (inside : f.root.Within c)
    (mem : b ∈ nameNodes c) : b.node.start ≤ f.bytes.length := by
  rcases mem_nameNodes mem with rfl | above
  · exact h b inside
  · exact h b (inside.ancestor above)

/-- Two nodes of modules of a program have the same qualified name.  If neither path holds a double
quote and no own name behind the name holds a dot, then the modules have the same path, the own names
of the containers and of the nodes are the same from the outside in, and where both have a function
that is known by its position only, these functions start at the same byte. -/
theorem qualifiedName_inj (sources : List Source) (m m' : Module)
    (known : (Program.ofSources sources).module? m.path = some m)
    (known' : (Program.ofSources sources).module? m'.path = some m')
    (starts : m.source.StartsInside) (unquoted : '"' ∉ m.path.toList)
    (unquoted' : '"' ∉ m'.path.toList) (c c' : Cursor)
    (inside : m.source.root.Within c) (inside' : m'.source.root.Within c')
    (undotted : ∀ b ∈ nameNodes c, ∀ own ∈ m.source.ownName? b, '.' ∉ own.toList)
    (undotted' : ∀ b ∈ nameNodes c', ∀ own ∈ m'.source.ownName? b, '.' ∉ own.toList) (name : String)
    (named : m.source.qualifiedName? c = some name)
    (named' : m'.source.qualifiedName? c' = some name) :
    m.path = m'.path ∧
    (nameNodes c).map m.source.ownName? = (nameNodes c').map m'.source.ownName? ∧
    ∀ (i : Nat) (b b' : Cursor), (nameNodes c)[i]? = some b → (nameNodes c')[i]? = some b' →
      m.source.isUnnamed b = true → m'.source.isUnnamed b' = true → b.node.start = b'.node.start := by
  obtain ⟨f, -, -, rfl⟩ := Program.exists_source_of_module? known
  obtain ⟨f', -, -, rfl⟩ := Program.exists_source_of_module? known'
  simp only [Module.index_source, Module.index_path] at *
  obtain ⟨parts, split, rfl⟩ := Option.map_eq_some_iff.1 named
  obtain ⟨parts', split', same⟩ := Option.map_eq_some_iff.1 named'
  have owns := map_ownName?_nameNodes f split
  have owns' := map_ownName?_nameNodes f' split'
  obtain ⟨some_part, plain⟩ := parts_plain f owns undotted
  obtain ⟨some_part', plain'⟩ := parts_plain f' owns' undotted'
  obtain ⟨path, rfl⟩ := path_eq_and_parts_eq some_part' some_part unquoted' unquoted plain'
    plain same
  have ownsAgree := owns.trans owns'.symm
  refine ⟨path.symm, ownsAgree, ?_⟩
  -- a path stands for one module, so both functions start in the same file
  have file : f = f' := by
    rw [← Module.index_source f, ← Module.index_source f']
    exact congrArg Module.source (Option.some.inj (known.symm.trans (path ▸ known')))
  subst file
  intro i b b' found found' unnamed unnamed'
  have own : f.ownName? b = f.ownName? b' := by
    have atIndex := congrArg (·[i]?) ownsAgree
    simpa [found, found'] using atIndex
  rw [ownName?_of_isUnnamed f unnamed, ownName?_of_isUnnamed f unnamed', Option.some.injEq] at own
  exact positionLabel_inj f (starts.nameNode inside (List.mem_of_getElem? found))
    (starts.nameNode inside' (List.mem_of_getElem? found')) own

end Source

/-- The file `a.ts` with the text `x(()=>{{function f(){}}{function f(){}}})`. -/
def twinFile : Source where
  path := "a.ts"
  language := "typescript"
  bytes := Text.Utf8.encode "x(()=>{{function f(){}}{function f(){}}})"
  tree := ⟨"program", true, none, 0, 41,
    [⟨"expression_statement", true, none, 0, 41,
      [⟨"call_expression", true, none, 0, 41,
        [⟨"identifier", true, some "function", 0, 1, []⟩,
         ⟨"arguments", true, some "arguments", 1, 41,
          [⟨"arrow_function", true, none, 2, 40,
            [⟨"formal_parameters", true, some "parameters", 2, 4, []⟩,
             ⟨"statement_block", true, some "body", 6, 40,
              [⟨"statement_block", true, none, 7, 23,
                [⟨"function_declaration", true, none, 8, 22,
                  [⟨"identifier", true, some "name", 17, 18, []⟩,
                   ⟨"formal_parameters", true, some "parameters", 18, 20, []⟩,
                   ⟨"statement_block", true, some "body", 20, 22, []⟩]⟩]⟩,
               ⟨"statement_block", true, none, 23, 39,
                [⟨"function_declaration", true, none, 24, 38,
                  [⟨"identifier", true, some "name", 33, 34, []⟩,
                   ⟨"formal_parameters", true, some "parameters", 34, 36, []⟩,
                   ⟨"statement_block", true, some "body", 36, 38, []⟩]⟩]⟩]⟩]⟩]⟩]⟩]⟩]⟩

theorem twinFile_startsInside : twinFile.StartsInside := by
  intro c inside
  have named : ∀ a ∈ twinFile.root.walk, ∀ b ∈ a.children, b.node.named = true := by decide +kernel
  have starts : ∀ a ∈ twinFile.root.walk, a.node.start ≤ twinFile.bytes.length := by decide +kernel
  exact starts c (Cursor.mem_walk_of_within named inside)

/-- The two functions of one name, in two blocks of a function without a name. -/
theorem qualifiedName_inj_twins :
    ∃ c c', c.node.start = 8 ∧ c'.node.start = 24 ∧
      twinFile.qualifiedName? c = some "\"a.ts\".<anonymous:1:2>.f" ∧
      twinFile.qualifiedName? c' = some "\"a.ts\".<anonymous:1:2>.f" ∧
      (Source.nameNodes c).map twinFile.ownName? = (Source.nameNodes c').map twinFile.ownName? ∧
      ∀ (i : Nat) (b b' : Cursor), (Source.nameNodes c)[i]? = some b →
        (Source.nameNodes c')[i]? = some b' → twinFile.isUnnamed b = true →
        twinFile.isUnnamed b' = true → b.node.start = b'.node.start := by
  have found (start : Nat) (h : start = 8 ∨ start = 24) : ∃ c ∈ twinFile.root.walk,
      c.node.start = start ∧
      twinFile.qualifiedName? c = some "\"a.ts\".<anonymous:1:2>.f" ∧
      ∀ b ∈ Source.nameNodes c, ∀ own ∈ twinFile.ownName? b, '.' ∉ own.toList := by
    rcases h with rfl | rfl <;> decide +kernel
  obtain ⟨c, visited, start, named, undotted⟩ := found 8 (.inl rfl)
  obtain ⟨c', visited', start', named', undotted'⟩ := found 24 (.inr rfl)
  have file : (Module.index twinFile).source = twinFile := Module.index_source twinFile
  have known : (Program.ofSources [twinFile]).module? (Module.index twinFile).path =
      some (Module.index twinFile) := by
    rw [Module.index_path, Program.module?_ofSources]
    simp
  refine ⟨c, c', start, start', named, named', ?_⟩
  have unquoted : '"' ∉ (Module.index twinFile).path.toList := by
    rw [Module.index_path]
    decide
  have alike := Source.qualifiedName_inj [twinFile] (Module.index twinFile) (Module.index twinFile) known
    known (file.symm ▸ twinFile_startsInside) unquoted unquoted c c'
    (file.symm ▸ Cursor.within_of_mem_walk visited) (file.symm ▸ Cursor.within_of_mem_walk visited')
    (file.symm ▸ undotted) (file.symm ▸ undotted') _ (file.symm ▸ named) (file.symm ▸ named')
  rw [file] at alike
  exact alike.2

end RepoAudit

import RepoAudit.Proofs.Comments.Bytes
import RepoAudit.Proofs.Comments.Tree

/-! # Names in a file with comments

Comments that take the place of white space, outside of names, leave every name as it is: the names that
nodes give themselves, the labels by position, the qualified names and the names of a pattern.

* `Source.Legible` – what comments leave of the bytes of a node;
* `Source.WithComments` – a file and the same file with comments;
* `qualifiedName?_eq` – qualified names stay the same;
* `names_eq` – so do the names that a pattern introduces.
-/

namespace RepoAudit

open Syntax

theorem optionRel_or {α β : Type} {R : α → β → Prop} {x x' : Option α} {y y' : Option β}
    (h : Option.Rel R x y) (h' : Option.Rel R x' y') : Option.Rel R (x.or x') (y.or y') := by
  cases h with
  | none => exact h'
  | some related => exact .some related

section forall₂

variable {α β γ : Type} {R : α → β → Prop} {as : List α} {bs : List β} {p : α → Bool} {q : β → Bool}

theorem forall₂_takeWhile (h : List.Forall₂ R as bs) (same : ∀ a b, R a b → q b = p a) :
    List.Forall₂ R (as.takeWhile p) (bs.takeWhile q) := by
  induction h with
  | nil => exact .nil
  | @cons a b as bs head _ ih =>
    rw [List.takeWhile_cons, List.takeWhile_cons, same a b head]
    split
    · exact .cons head ih
    · exact .nil

theorem optionRel_find? (h : List.Forall₂ R as bs) (same : ∀ a b, R a b → q b = p a) :
    Option.Rel R (as.find? p) (bs.find? q) := by
  induction h with
  | nil => exact .none
  | @cons a b as bs head _ ih =>
    rw [List.find?_cons, List.find?_cons, same a b head]
    split
    · exact .some head
    · exact ih

theorem optionRel_findSome? {δ : Type} {S : γ → δ → Prop} {f : α → Option γ} {g : β → Option δ}
    (h : List.Forall₂ R as bs) (same : ∀ a b, R a b → Option.Rel S (f a) (g b)) :
    Option.Rel S (as.findSome? f) (bs.findSome? g) := by
  induction h with
  | nil => exact .none
  | @cons a b as bs head _ ih =>
    rw [List.findSome?_cons, List.findSome?_cons]
    rcases cases_of_optionRel (same a b head) with ⟨e, e'⟩ | ⟨x, y, e, e', related⟩
    · rw [e, e']
      exact ih
    · rw [e, e']
      exact .some related

theorem findSome?_eq_of_forall₂ {f : α → Option γ} {g : β → Option γ} (h : List.Forall₂ R as bs)
    (same : ∀ a b, R a b → g b = f a) : bs.findSome? g = as.findSome? f := by
  induction h with
  | nil => rfl
  | @cons a b as bs head _ ih => rw [List.findSome?_cons, List.findSome?_cons, same a b head, ih]

theorem filterMap_eq_of_forall₂ {f : α → Option γ} {g : β → Option γ} (h : List.Forall₂ R as bs)
    (same : ∀ a b, R a b → g b = f a) : bs.filterMap g = as.filterMap f := by
  induction h with
  | nil => rfl
  | @cons a b as bs head _ ih => rw [List.filterMap_cons, List.filterMap_cons, same a b head, ih]

theorem flatMap_eq_of_forall₂ {f : α → List γ} {g : β → List γ} (h : List.Forall₂ R as bs)
    (same : ∀ a b, R a b → g b = f a) : bs.flatMap g = as.flatMap f := by
  induction h with
  | nil => rfl
  | @cons a b as bs head _ ih => rw [List.flatMap_cons, List.flatMap_cons, same a b head, ih]

theorem foldl_eq_of_forall₂ {f : γ → α → γ} {g : γ → β → γ} (h : List.Forall₂ R as bs)
    (same : ∀ a b, R a b → ∀ s, g s b = f s a) (s : γ) : bs.foldl g s = as.foldl f s := by
  induction h generalizing s with
  | nil => rfl
  | @cons a b as bs head _ ih => rw [List.foldl_cons, List.foldl_cons, same a b head, ih]

theorem mapM_eq_of_forall₂ {f : α → Option γ} {g : β → Option γ} (h : List.Forall₂ R as bs)
    (same : ∀ a b, R a b → g b = f a) : bs.mapM g = as.mapM f := by
  induction h with
  | nil => rfl
  | @cons a b as bs head _ ih => rw [List.mapM_cons, List.mapM_cons, same a b head, ih]

end forall₂

namespace Source

/-- The roles in which a node is read as a name, whatever it is. -/
def nameRoles : List String := ["name", "alias", "key", "property", "source"]

/-- The kinds of nodes that are read as names, whatever their role. -/
def nameKinds : List Kind :=
  ["identifier", "shorthand_property_identifier", "shorthand_property_identifier_pattern",
    "type_identifier"]

def isRead (n : Node) : Bool :=
  n.role.any nameRoles.contains || nameKinds.contains n.kind

def span (bytes : List UInt8) (n : Node) : List UInt8 :=
  (bytes.drop n.start).take (n.stop - n.start)

/-- What comments leave of the bytes of a node: they stand in the place of white space, and not inside a
name. -/
structure Legible (old new : List UInt8) (n : Node) : Prop where
  inside : fills false (span old n) (span new n) = true
  name : isRead n = true → span new n = span old n
  space : n.kind = "namespace_export" → ∀ k ∈ n.namedChildren, span new k = span old k

/-- Whether a comment may be put after children of a node, nearest first: at certain places only, and
where there is white space. -/
def Admits (mayStand : Node → List Node → Bool) (old : List UInt8) (n : Node) (before : List Node)
    (c : Node) : Prop :=
  mayStand n before = true ∧ ∀ b ∈ span old c, isGraphic b = false

/-- A file and the same file with comments in the place of white space.  Which places a comment may have
in the tree is said by `mayStand`. -/
structure WithComments (mayStand : Node → List Node → Bool) (f f' : Source) : Prop where
  path : f'.path = f.path
  bytes : fills false f.bytes f'.bytes = true
  tree : Commented (Admits mayStand f.bytes) (Legible f.bytes f'.bytes) f.tree f'.tree

instance (old new : List UInt8) (n : Node) : Decidable (Legible old new n) :=
  decidable_of_iff (fills false (span old n) (span new n) = true ∧
      (isRead n = true → span new n = span old n) ∧
      (n.kind = "namespace_export" → ∀ k ∈ n.namedChildren, span new k = span old k))
    ⟨fun h => ⟨h.1, h.2.1, h.2.2⟩, fun h => ⟨h.inside, h.name, h.space⟩⟩

instance (mayStand : Node → List Node → Bool) (old : List UInt8) (n : Node) (before : List Node)
    (c : Node) : Decidable (Admits mayStand old n before c) :=
  decidable_of_iff (mayStand n before = true ∧ (span old c).all (fun b => !isGraphic b) = true)
    (by simp [Admits])

abbrev Paired (f f' : Source) : Cursor → Cursor → Prop :=
  Beside (Admits mayFollow f.bytes) (Legible f.bytes f'.bytes)

variable {f f' : Source} {c c' : Cursor}

/-! ## Texts -/

theorem text_eq_of_span {admits : Node → List Node → Node → Prop} {keeps : Node → Prop} {n n' : Node}
    (h : Commented admits keeps n n') (same : span f'.bytes n = span f.bytes n) :
    f'.text n' = f.text n := by
  rw [text, text, bytesOf, bytesOf, h.start_eq, h.stop_eq]
  exact congrArg _ same

theorem text_eq_of_commented {admits : Node → List Node → Node → Prop} {n n' : Node}
    (h : Commented admits (Legible f.bytes f'.bytes) n n') (read : isRead n = true) :
    f'.text n' = f.text n :=
  text_eq_of_span h (h.kept.name read)

theorem isRead_of_kind {n : Node} {kind : Kind} (h : n.kind = kind)
    (listed : nameKinds.contains kind = true) : isRead n = true := by
  rw [isRead, h, listed, Bool.or_true]

theorem isRead_of_role {n : Node} {role : String} (h : n.role = some role)
    (listed : nameRoles.contains role = true) : isRead n = true := by
  rw [isRead, h, Option.any_some, listed, Bool.true_or]

namespace Paired

theorem text_of_kind (h : Paired f f' c c') {kind : Kind} (same : c.kind = kind)
    (listed : nameKinds.contains kind = true) : f'.text c'.node = f.text c.node :=
  text_eq_of_commented h.node (isRead_of_kind same listed)

/-- A child that is read as a name has the same text. -/
theorem named (h : Paired f f' c c') (role : String) (listed : nameRoles.contains role = true) :
    Option.Rel (fun d d' => Paired f f' d d' ∧ f'.text d'.node = f.text d.node) (c.child? role)
      (c'.child? role) := by
  rcases cases_of_optionRel (h.child? role) with ⟨e, e'⟩ | ⟨d, d', e, e', beside⟩
  · rw [e, e']
    exact .none
  · rw [e, e']
    have plays : d.node.role = some role := by simpa using List.find?_some e
    exact .some ⟨beside, text_eq_of_commented beside.node (isRead_of_role plays listed)⟩

theorem map_text (h : Paired f f' c c') (role : String) (listed : nameRoles.contains role = true) :
    ((c'.child? role).map fun name => f'.text name.node) =
      (c.child? role).map fun name => f.text name.node := by
  rcases cases_of_optionRel (h.named role listed) with ⟨e, e'⟩ | ⟨d, d', e, e', -, same⟩
  · rw [e, e']
    rfl
  · rw [e, e', Option.map_some, Option.map_some, same]

theorem stringValue_eq {d d' : Cursor} (h : f'.text d'.node = f.text d.node) :
    f'.stringValue d'.node = f.stringValue d.node := by
  rw [stringValue, stringValue, h]

theorem map_key (h : Paired f f' c c') (role : String) :
    (c'.child? role).map (·.key) = (c.child? role).map (·.key) := by
  rcases cases_of_optionRel (h.child? role) with ⟨e, e'⟩ | ⟨d, d', e, e', beside⟩
  · rw [e, e', Option.map_none]
  · rw [e, e', Option.map_some, Option.map_some, beside.key_eq]

end Paired

/-! ## Qualified names -/

theorem boundName?_eq (h : Paired f f' c c') : f'.boundName? c' = f.boundName? c := by
  unfold boundName?
  rcases cases_of_optionRel h.parent? with ⟨e, e'⟩ | ⟨parent, parent', e, e', beside⟩
  · rw [e, e']
  · rw [e, e']
    dsimp only
    rw [beside.kind_eq, Paired.map_key beside, h.key_eq]
    -- a declarator, a field of a class and a pair of an object literal give names
    refine ite_congr rfl (fun _ => ?_) fun _ => ite_congr rfl (fun _ => ?_) fun _ =>
      ite_congr rfl (fun _ => ?_) fun _ => rfl
    · rcases cases_of_optionRel (Paired.named beside "name" rfl) with
        ⟨n, n'⟩ | ⟨name, name', n, n', paired, same⟩
      · rw [n, n']
      · simp only [n, n', paired.kind_eq, same]
    · have field := optionRel_or (Paired.named beside "name" rfl) (Paired.named beside "property" rfl)
      rcases cases_of_optionRel field with ⟨n, n'⟩ | ⟨name, name', n, n', paired, same⟩
      · rw [n, n']
      · simp only [n, n', paired.kind_eq, same]
    · rcases cases_of_optionRel (Paired.named beside "key" rfl) with
        ⟨n, n'⟩ | ⟨key, key', n, n', paired, same⟩
      · rw [n, n']
      · simp only [n, n', paired.kind_eq, same, Paired.stringValue_eq same]

theorem positionLabel_eq (bytes : fills false f.bytes f'.bytes = true) (h : Paired f f' c c') :
    f'.positionLabel c'.node = f.positionLabel c.node := by
  rw [positionLabel, positionLabel, firstLine, firstLine, h.node.start_eq, row_eq_of_fills bytes,
    column_eq_of_fills bytes]

theorem ownName?_eq (bytes : fills false f.bytes f'.bytes = true) (h : Paired f f' c c') :
    f'.ownName? c' = f.ownName? c := by
  unfold ownName?
  rw [h.kind_eq, boundName?_eq h, positionLabel_eq bytes h, Paired.map_text h "name" rfl]
  -- only the name of a method is read in more than one way
  refine ite_congr rfl (fun _ => rfl) fun _ => ite_congr rfl (fun _ => ?_) fun _ => rfl
  rcases cases_of_optionRel (Paired.named h "name" rfl) with
    ⟨n, n'⟩ | ⟨name, name', n, n', paired, same⟩
  · rw [n, n']
  · simp only [n, n', paired.kind_eq, same, Paired.stringValue_eq same]

theorem containers_paired (h : Paired f f' c c') :
    List.Forall₂ (Paired f f') (containers c) (containers c') := by
  have inside := forall₂_takeWhile (p := (·.kind != "program")) (q := (·.kind != "program")) h.ancestors
    fun a b paired => by rw [paired.kind_eq]
  exact List.rel_filter (fun a b paired => by simp only [paired.kind_eq]) inside

theorem qualifiedName?_eq (path : f'.path = f.path) (bytes : fills false f.bytes f'.bytes = true)
    (h : Paired f f' c c') : f'.qualifiedName? c' = f.qualifiedName? c := by
  have parts : f'.nameParts? c' = f.nameParts? c := by
    unfold nameParts?
    rw [mapM_eq_of_forall₂ (.cons h (containers_paired h)) fun a b paired => ownName?_eq bytes paired]
  rw [qualifiedName?, qualifiedName?, parts, modulePart, modulePart, path]

theorem scopeOf_paired (h : Paired f f' c c') (functionsOnly : Bool) :
    Paired f f' (scopeOf functionsOnly c) (scopeOf functionsOnly c') := by
  have found := optionRel_find? (p := opensScope functionsOnly) (q := opensScope functionsOnly) h.ancestors
    fun a b paired => by rw [opensScope, opensScope, paired.kind_eq]
  unfold scopeOf
  rcases cases_of_optionRel found with ⟨e, e'⟩ | ⟨scope, scope', e, e', paired⟩
  · rw [e, e']
    exact h
  · rw [e, e']
    exact paired

/-! ## Patterns -/

/-- A comment introduces no names. -/
theorem parts_of_isComment {n : Node} (h : IsComment n) :
    Pattern.isName n = false ∧ Pattern.parts n = [] := by
  have isName : Pattern.isName n = false := by simp [Pattern.isName, h.kind]
  refine ⟨isName, ?_⟩
  simp [Pattern.parts, isName, Pattern.innerRole?, Pattern.isGroup, h.kind, Kind.isParameter,
    Kind.parameters]

theorem names_of_isComment (text : Node → String) {n : Node} (h : IsComment n) :
    Pattern.names text n = [] := by
  obtain ⟨isName, parts⟩ := parts_of_isComment h
  rw [Pattern.names, Pattern.namesOf, isName, parts]
  simp [Pattern.namesOf]

theorem parts_commented {n n' : Node} {admits : Node → List Node → Node → Prop} {keeps : Node → Prop}
    (h : Commented admits keeps n n') :
    Strewn (Commented admits keeps) IsComment (Pattern.parts n) (Pattern.parts n') := by
  have isName : Pattern.isName n' = Pattern.isName n := by
    rw [Pattern.isName, Pattern.isName, h.kind_eq]
  have innerRole : Pattern.innerRole? n' = Pattern.innerRole? n := by
    rw [Pattern.innerRole?, Pattern.innerRole?, h.kind_eq]
  have isGroup : Pattern.isGroup n' = Pattern.isGroup n := by
    rw [Pattern.isGroup, Pattern.isGroup, h.kind_eq]
  unfold Pattern.parts
  rw [isName, innerRole, isGroup]
  split
  · exact .nil
  · split
    · rename_i role _
      rcases cases_of_optionRel (h.child? role) with ⟨e, e'⟩ | ⟨inner, inner', e, e', commented⟩
      · rw [e, e']
        exact .nil
      · rw [e, e']
        exact .keep commented .nil
    · split
      · exact h.namedChildren
      · exact .nil

theorem namesOf_eq {admits : Node → List Node → Node → Prop} {stack stack' : List Node}
    (h : Strewn (Commented admits (Legible f.bytes f'.bytes)) IsComment stack stack') :
    Pattern.namesOf f'.text stack' = Pattern.namesOf f.text stack := by
  fun_induction Pattern.namesOf f'.text stack' generalizing stack with
  | case1 =>
    cases h
    rw [Pattern.namesOf]
  | case2 n' rest' isName ih =>
    cases h with
    | @keep _ _ n _ rest _ head onward =>
      have sameKind : Pattern.isName n = true := by
        rwa [Pattern.isName, ← head.kind_eq]
      -- a name of a pattern is known by its kind, whatever its role
      have read : isRead n = true := by
        simp only [Pattern.isName, Bool.or_eq_true, beq_iff_eq] at sameKind
        rcases sameKind with kind | kind
        · exact isRead_of_kind kind rfl
        · exact isRead_of_kind kind rfl
      rw [Pattern.namesOf, if_pos sameKind, text_eq_of_commented head read,
        ih (onward.anywhere (fun _ _ comment => comment) [])]
    | insert comment => rw [(parts_of_isComment comment).1] at isName; cases isName
  | case3 n' rest' isName ih =>
    cases h with
    | @keep _ _ n _ rest _ head onward =>
      have sameKind : ¬ Pattern.isName n = true := by
        rwa [Pattern.isName, ← head.kind_eq]
      rw [Pattern.namesOf, if_neg sameKind]
      refine ih (((parts_commented head).reverse fun _ _ comment => comment).append
        (fun _ _ comment => comment) (onward.anywhere (fun _ _ comment => comment) []) [])
    | insert comment onward =>
      refine ih ?_
      rw [(parts_of_isComment comment).2]
      exact onward

/-- A pattern introduces the same names. -/
theorem names_eq {n n' : Node} {admits : Node → List Node → Node → Prop}
    (h : Commented admits (Legible f.bytes f'.bytes) n n') :
    Pattern.names f'.text n' = Pattern.names f.text n :=
  namesOf_eq (.keep h .nil)

end Source

end RepoAudit

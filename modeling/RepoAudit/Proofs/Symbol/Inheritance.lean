import RepoAudit.Proofs.DeadCode.LocalCalls

/-! # Members along the superclasses

A member that a class does not have itself is looked for in the class it extends, then in the one
above that, and so on, one hop deeper each time.  Superclasses are resolved through imports and
members of other classes, and a class may stand above itself.  However that may be, the search stops
at the first class with a method or a field of the name, and only a method there makes the answer a
function.

* `Program.ancestor?` – the class some steps above a class;
* `ClassSymbol.Defines` – a class has a method or a field of a name;
* `member_of_defines`, `member_of_not_defines` – one step of the search;
* `member_eq_function_iff`, `member_eq_none` – the whole search, by induction on hops;
* `member_follows_inheritance` – the nearest class that defines a member decides.
-/

namespace RepoAudit

/-- A class has a method of the name, or a field of the name with a type or a value. -/
def ClassSymbol.Defines (cls : ClassSymbol) (name : String) : Prop :=
  (∃ qualified, cls.methods.find? name = some qualified) ∨ ∃ typed, cls.fields.find? name = some typed

theorem ClassSymbol.not_defines_iff {cls : ClassSymbol} {name : String} :
    ¬ cls.Defines name ↔ cls.methods.find? name = none ∧ cls.fields.find? name = none := by
  simp only [Defines, not_or, not_exists, Option.eq_none_iff_forall_ne_some, ne_eq]

namespace Program

/-- The class that stands `i` steps above a class.  At each step the search is one hop deeper, and the
next class is the one that the search finds with the hops left there. -/
def ancestor? (p : Program) (hops : Nat) (cls : ClassSymbol) : Nat → Option ClassSymbol
  | 0 => some cls
  | i + 1 => (p.ancestor? hops cls i).bind (p.superclass (hops - (i + 1)))

variable {p : Program} {cls : ClassSymbol} {name qualified : String} {hops : Nat}

@[simp] theorem ancestor?_zero : p.ancestor? hops cls 0 = some cls :=
  rfl

/-- What stands above a class is what stands above its superclass, one step less far and with one hop
less. -/
theorem ancestor?_succ (i : Nat) :
    p.ancestor? (hops + 1) cls (i + 1) =
      (p.superclass hops cls).bind fun parent => p.ancestor? hops parent i := by
  induction i with
  | zero =>
    rw [ancestor?, ancestor?_zero, Option.bind_some, Nat.zero_add, Nat.add_sub_cancel]
    cases p.superclass hops cls with
    | none => rfl
    | some parent => rfl
  | succ i ih =>
    rw [ancestor?, ih, Option.bind_assoc, Nat.add_sub_add_right]
    rfl

/-! ## One step -/

/-- What a field of a class holds is a class, whatever its type or value resolves to. -/
theorem member_of_field {typed : Syntax.Cursor} (unnamed : cls.methods.find? name = none)
    (field : cls.fields.find? name = some typed) :
    p.member hops cls.symbol name ≠ some (.entity (.function qualified)) := by
  have noFunction (found : Option ClassSymbol) :
      found.map ClassSymbol.symbol ≠ some (.entity (.function qualified)) := by
    cases found with
    | none => simp
    | some held => simp [ClassSymbol.symbol]
  cases hops with
  | zero => simp [member]
  | succ hops =>
    rw [ClassSymbol.symbol, member]
    simp only [unnamed, field]
    split
    · split
      · exact noFunction _
      · exact noFunction _
    · simp

/-- A class that defines a member gives a function for it exactly if the member is a method. -/
theorem member_of_defines (defines : cls.Defines name) :
    p.member (hops + 1) cls.symbol name = some (.entity (.function qualified)) ↔
      cls.methods.find? name = some qualified := by
  cases method : cls.methods.find? name with
  | some found =>
    rw [ClassSymbol.symbol, member_of_method method]
    simp
  | none =>
    rcases defines with ⟨found, isMethod⟩ | ⟨typed, field⟩
    · rw [method] at isMethod
      cases isMethod
    · simpa using member_of_field method field

/-- A class that does not define a member leaves the search to the class it extends. -/
theorem member_of_not_defines (lacks : ¬ cls.Defines name) :
    p.member (hops + 1) cls.symbol name =
      (p.superclass hops cls).bind fun parent => p.member hops parent.symbol name := by
  obtain ⟨noMethod, noField⟩ := ClassSymbol.not_defines_iff.1 lacks
  rw [ClassSymbol.symbol, member]
  simp only [noMethod, noField]
  cases p.superclass hops cls with
  | none => rfl
  | some parent => rfl

/-! ## The whole search -/

/-- The search ends with a function exactly if, within its hops, the first class upward that defines
the member has it as a method. -/
theorem member_eq_function_iff :
    p.member hops cls.symbol name = some (.entity (.function qualified)) ↔
      ∃ i c, i < hops ∧ p.ancestor? hops cls i = some c ∧ c.methods.find? name = some qualified ∧
        ∀ j < i, ∀ nearer, p.ancestor? hops cls j = some nearer → ¬ nearer.Defines name := by
  induction hops generalizing cls with
  | zero => simp [member]
  | succ hops ih =>
    by_cases defines : cls.Defines name
    · rw [member_of_defines defines]
      constructor
      · intro method
        exact ⟨0, cls, by omega, rfl, method, fun j below => absurd below (by omega)⟩
      · rintro ⟨i, c, -, above, method, nearest⟩
        cases i with
        | zero =>
          cases above
          exact method
        | succ i => exact absurd defines (nearest 0 (by omega) cls rfl)
    · rw [member_of_not_defines defines]
      constructor
      · intro found
        obtain ⟨parent, extended, found⟩ := Option.bind_eq_some_iff.1 found
        obtain ⟨i, c, room, above, method, nearest⟩ := ih.1 found
        refine ⟨i + 1, c, by omega, ?_, method, ?_⟩
        · rw [ancestor?_succ, extended, Option.bind_some, above]
        · intro j below nearer met
          cases j with
          | zero =>
            cases met
            exact defines
          | succ j =>
            rw [ancestor?_succ, extended, Option.bind_some] at met
            exact nearest j (by omega) nearer met
      · rintro ⟨i, c, room, above, method, nearest⟩
        cases i with
        | zero =>
          cases above
          exact absurd (.inl ⟨qualified, method⟩) defines
        | succ i =>
          rw [ancestor?_succ] at above
          obtain ⟨parent, extended, above⟩ := Option.bind_eq_some_iff.1 above
          rw [extended, Option.bind_some]
          refine ih.2 ⟨i, c, by omega, above, method, fun j below nearer met => ?_⟩
          refine nearest (j + 1) (by omega) nearer ?_
          rw [ancestor?_succ, extended, Option.bind_some, met]

/-- Where no class upward defines the member, the search ends without an answer, in a cycle of classes
too. -/
theorem member_eq_none
    (lacks : ∀ i c, p.ancestor? hops cls i = some c → ¬ c.Defines name) :
    p.member hops cls.symbol name = none := by
  induction hops generalizing cls with
  | zero => rfl
  | succ hops ih =>
    rw [member_of_not_defines (lacks 0 cls rfl)]
    cases extended : p.superclass hops cls with
    | none => rfl
    | some parent =>
      refine ih fun i c above => lacks (i + 1) c ?_
      rw [ancestor?_succ, extended, Option.bind_some, above]

end Program

/-- A search for a member of a class that is `depth` steps deep, and so has `maxHops - depth` hops
left, goes up the superclasses.

* It answers with a function exactly if that is a method of some class and no class nearer has a
  method or a field of the name.
* A field hides the methods of the classes above it.
* If no class defines the name there is no answer. -/
theorem member_follows_inheritance (p : Program) (cls : ClassSymbol) (name : String) (depth : Nat) :
    (∀ qualified, p.member (Program.maxHops - depth) cls.symbol name =
        some (.entity (.function qualified)) ↔
      ∃ i c, depth + i < Program.maxHops ∧
        p.ancestor? (Program.maxHops - depth) cls i = some c ∧
        c.methods.find? name = some qualified ∧
        ∀ j < i, ∀ nearer, p.ancestor? (Program.maxHops - depth) cls j = some nearer →
          nearer.methods.find? name = none ∧ nearer.fields.find? name = none) ∧
    (∀ i c typed, p.ancestor? (Program.maxHops - depth) cls i = some c →
      c.fields.find? name = some typed →
      (∀ j ≤ i, ∀ nearer, p.ancestor? (Program.maxHops - depth) cls j = some nearer →
        nearer.methods.find? name = none) →
      ∀ qualified, p.member (Program.maxHops - depth) cls.symbol name ≠
        some (.entity (.function qualified))) ∧
    ((∀ i c, p.ancestor? (Program.maxHops - depth) cls i = some c →
        c.methods.find? name = none ∧ c.fields.find? name = none) →
      p.member (Program.maxHops - depth) cls.symbol name = none) := by
  refine ⟨?_, ?_, ?_⟩
  · intro qualified
    simp only [Program.member_eq_function_iff, ClassSymbol.not_defines_iff, Nat.lt_sub_iff_add_lt']
  · intro i c typed above field noMethod qualified found
    obtain ⟨k, definer, -, met, method, nearest⟩ := Program.member_eq_function_iff.1 found
    -- the method would stand above the field, for up to the field there is none
    by_cases below : k ≤ i
    · rw [noMethod k below definer met] at method
      cases method
    · exact nearest i (by omega) c above (.inr ⟨typed, field⟩)
  · intro lacks
    exact Program.member_eq_none fun i c above => ClassSymbol.not_defines_iff.2 (lacks i c above)

/-- The file `a.ts` with the text `class A extends B{}class B extends A{m(){}}`. -/
def cyclicClasses : Source where
  path := "a.ts"
  language := "typescript"
  bytes := Text.Utf8.encode "class A extends B{}class B extends A{m(){}}"
  tree := ⟨"program", true, none, 0, 43,
    [⟨"class_declaration", true, none, 0, 19,
      [⟨"type_identifier", true, some "name", 6, 7, []⟩,
       ⟨"class_heritage", true, none, 8, 17,
        [⟨"extends_clause", true, none, 8, 17, [⟨"identifier", true, some "value", 16, 17, []⟩]⟩]⟩,
       ⟨"class_body", true, some "body", 17, 19, []⟩]⟩,
     ⟨"class_declaration", true, none, 19, 43,
      [⟨"type_identifier", true, some "name", 25, 26, []⟩,
       ⟨"class_heritage", true, none, 27, 36,
        [⟨"extends_clause", true, none, 27, 36, [⟨"identifier", true, some "value", 35, 36, []⟩]⟩]⟩,
       ⟨"class_body", true, some "body", 36, 43,
        [⟨"method_definition", true, none, 37, 42,
          [⟨"property_identifier", true, some "name", 37, 38, []⟩,
           ⟨"formal_parameters", true, some "parameters", 38, 40, []⟩,
           ⟨"statement_block", true, some "body", 40, 42, []⟩]⟩]⟩]⟩]⟩

/-- Two classes that extend each other: the class that has no method itself gets the one of the other,
which is one step above it, while it stands two steps above itself. -/
theorem member_follows_inheritance_cyclic :
    ∃ cls ∈ (Module.index cyclicClasses).classes.values, cls.methods.contains "m" = false ∧
      ((Program.ofSources [cyclicClasses]).ancestor? Program.maxHops cls 2).map (·.key) =
        some cls.key ∧
      ∃ i c, 0 + i < Program.maxHops ∧
        (Program.ofSources [cyclicClasses]).ancestor? Program.maxHops cls i = some c ∧
        c.methods.find? "m" = some "\"a.ts\".B.m" ∧
        ∀ j < i, ∀ nearer, (Program.ofSources [cyclicClasses]).ancestor? Program.maxHops cls j =
            some nearer → nearer.methods.find? "m" = none ∧ nearer.fields.find? "m" = none := by
  have found : ∃ cls ∈ (Module.index cyclicClasses).classes.values, cls.methods.contains "m" = false ∧
      ((Program.ofSources [cyclicClasses]).ancestor? Program.maxHops cls 2).map (·.key) =
        some cls.key ∧
      (Program.ofSources [cyclicClasses]).member Program.maxHops cls.symbol "m" =
        some (.entity (.function "\"a.ts\".B.m")) := by decide +kernel
  obtain ⟨cls, listed, noMethod, above, member⟩ := found
  exact ⟨cls, listed, noMethod, above, ((member_follows_inheritance _ cls "m" 0).1 _).1 member⟩

end RepoAudit

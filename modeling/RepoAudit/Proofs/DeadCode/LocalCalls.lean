import RepoAudit.Proofs.DeadCode.Exact
import RepoAudit.Proofs.Symbol.Classes

/-! # Calls inside a module

Two kinds of calls need nothing but the module they stand in: a call of a function by a name that an
enclosing scope binds, and a call of a method on `this`.  Whatever else a program contains, such a
call keeps the function that it reaches out of the report.

* `Module.IsOwnMember` – the expression `this.name` inside a class;
* `KeptAlive` – nothing with a qualified name is reported;
* `local_calls_keep_alive` – the function behind either kind of call is not dead.
-/

namespace RepoAudit

open Syntax

/-! ## Names of enclosing scopes -/

namespace Program

variable {p : Program} {m : Module} {hops : Nat}

theorem resolveValue_identifier {c : Cursor} {b : Binding} (kind : c.kind = "identifier")
    (bound : m.lookup? (m.text c) c = some b) :
    p.resolveValue (hops + 1) m c = p.resolveBinding hops m b := by
  rw [resolveValue, kind]
  simp only [bound]

/-- An identifier that sees the binding of a function denotes the function. -/
theorem resolveCallee_of_sees {callee scope : Cursor} {qualified : String}
    (kind : callee.kind = "identifier") (sees : m.Sees (m.text callee) callee scope)
    (bound : m.boundAt? scope.key (m.text callee) = some (.entity (.function qualified))) :
    p.resolveCallee m callee = some qualified := by
  have found := Module.lookup?_eq_some_iff.2 ⟨scope, sees, bound⟩
  have value : p.valueOf m callee = some (.entity (.function qualified)) :=
    (resolveValue_identifier kind found).trans (by simp [resolveBinding])
  rw [resolveCallee, value]

end Program

/-! ## Methods on `this` -/

/-- The expression `this.name` at a place where `this` belongs to a class. -/
def Module.IsOwnMember (m : Module) (cls : Cursor) (name : String) (c : Cursor) : Prop :=
  c.kind = "member_expression" ∧
    (∃ object ∈ c.child? "object", object.kind = "this" ∧ OwnedBy cls object.ancestors) ∧
    ∃ property ∈ c.child? "property", m.text property = name ∧
      (property.kind = "property_identifier" ∨ property.kind = "private_property_identifier")

namespace Program

variable {p : Program} {m : Module} {hops : Nat} {cls : Cursor}

theorem resolveValue_this {c : Cursor} (kind : c.kind = "this") :
    p.resolveValue (hops + 1) m c = (m.owner? c).map .entity := by
  rw [resolveValue, kind]
  rfl

theorem resolveValue_member {c object property : Cursor} {container : Symbol}
    (kind : c.kind = "member_expression") (hobject : c.child? "object" = some object)
    (hproperty : c.child? "property" = some property)
    (propertyKind : property.kind = "property_identifier" ∨
      property.kind = "private_property_identifier")
    (receiver : p.resolveValue hops m object = some container) :
    p.resolveValue (hops + 1) m c = p.member hops container (m.text property) := by
  rw [resolveValue, kind]
  simp only [hobject, hproperty, Bool.or_eq_true, beq_iff_eq, propertyKind, if_true, receiver]

theorem member_of_method {symbol : ClassSymbol} {name qualified : String}
    (method : symbol.methods.find? name = some qualified) :
    p.member (hops + 1) (.entity (.cls symbol)) name = some (.entity (.function qualified)) := by
  rw [member]
  simp only [method]

/-- A member of `this` that is a method of the class denotes the method. -/
theorem resolveCallee_of_isOwnMember {callee : Cursor} {name qualified : String}
    {symbol : ClassSymbol} (own : m.IsOwnMember cls name callee)
    (entry : m.classes.find? cls.key = some symbol)
    (method : symbol.methods.find? name = some qualified) :
    p.resolveCallee m callee = some qualified := by
  obtain ⟨kind, ⟨object, hobject, isThis, owned⟩, property, hproperty, rfl, propertyKind⟩ := own
  have owner : m.owner? object = some (.cls symbol) :=
    Module.ownerAlong_eq_cls_iff.2 ⟨cls, owned, entry⟩
  have receiver : p.resolveValue 32 m object = some (.entity (.cls symbol)) :=
    (resolveValue_this isThis).trans (by rw [owner, Option.map_some])
  have value : p.valueOf m callee = some (.entity (.function qualified)) :=
    (resolveValue_member kind hobject hproperty propertyKind receiver).trans
      (member_of_method method)
  rw [resolveCallee, value]

end Program

/-! ## What a call keeps alive -/

def Module.Calls (m : Module) (callee : Cursor) : Prop :=
  ∃ call ∈ m.source.root.walk, call.kind = "call_expression" ∧ call.child? "function" = some callee

/-- No declaration with the qualified name counts as unreferenced, and no finding is about it. -/
def KeptAlive (sources : List Source) (markers : List String) (qualified : String) : Prop :=
  (∀ d ∈ allDeclarations (Program.ofSources sources) markers sources, d.qualifiedName = qualified →
    Reachability.of (callGraph (Program.ofSources sources) sources) d ≠ .unreferenced) ∧
  ∀ confidence, ∀ finding ∈ deadCode markers confidence sources, finding.qualifiedName ≠ qualified

theorem keptAlive_of_called {sources : List Source} (markers : List String) {qualified : String}
    (called : Called (Program.ofSources sources) sources qualified) :
    KeptAlive sources markers qualified := by
  have referenced : ∀ d : Declaration, d.qualifiedName = qualified →
      Reachability.of (callGraph (Program.ofSources sources) sources) d ≠ .unreferenced := by
    rintro d rfl unreferenced
    have unknown := (reachability_unreferenced_iff.1 unreferenced).2
    rw [contains_callGraph_iff.2 called] at unknown
    cases unknown
  refine ⟨fun d _ => referenced d, ?_⟩
  intro confidence finding reported sameName
  obtain ⟨d, dead, rfl⟩ := List.mem_map.1 reported
  exact referenced d sameName (by simpa using (List.mem_filter.1 dead).2)

theorem called_of_calls {sources : List Source} {path : String} {m : Module} {callee : Cursor}
    {qualified : String} (known : (Program.ofSources sources).module? path = some m)
    (calls : m.Calls callee)
    (resolved : (Program.ofSources sources).resolveCallee m callee = some qualified) :
    Called (Program.ofSources sources) sources qualified := by
  obtain ⟨call, visited, kind, place⟩ := calls
  obtain ⟨f, listed, rfl, rfl⟩ := Program.exists_source_of_module? known
  rw [Module.index_source] at visited
  exact ⟨f, listed, _, known, call, visited, kind, callee, place, resolved⟩

/-- A class to which `this` belongs in a call of the module is visited by the walk over the module. -/
theorem Module.IsOwnMember.mem_walk {m : Module} {cls callee : Cursor} {name : String}
    (own : m.IsOwnMember cls name callee) (calls : m.Calls callee)
    (isClass : cls.kind.isClass = true) : cls ∈ m.source.root.walk := by
  obtain ⟨call, visited, callKind, place⟩ := calls
  obtain ⟨kind, ⟨object, hobject, -, owned⟩, -⟩ := own
  have above : cls ∈ object.ancestors := owned.mem
  rw [Cursor.ancestors_of_mem_children (Cursor.mem_children_of_child? hobject),
    Cursor.ancestors_of_mem_children (Cursor.mem_children_of_child? place), List.mem_cons,
    List.mem_cons] at above
  -- the call and its member expression are no classes, so the class stands above the call
  rcases above with rfl | rfl | above
  · rw [kind] at isClass
    exact absurd isClass (by decide)
  · rw [callKind] at isClass
    exact absurd isClass (by decide)
  · exact Cursor.mem_walk_of_mem_ancestors visited above

/-- A call of a name that an enclosing scope binds to a function, with no binding of the name in
between, keeps the function alive; so does a call of `this.name` the first method of that name of the
class to which `this` belongs, when the class can be named and shares its key with no other. -/
theorem local_calls_keep_alive (sources : List Source) (markers : List String) {path : String}
    {m : Module} (known : (Program.ofSources sources).module? path = some m) :
    (∀ callee scope qualified, m.Calls callee → callee.kind = "identifier" →
      m.Sees (m.text callee) callee scope →
      m.boundAt? scope.key (m.text callee) = some (.entity (.function qualified)) →
      KeptAlive sources markers qualified) ∧
    (∀ callee cls body method name qualified, m.Calls callee → m.IsOwnMember cls name callee →
      cls.kind.isClass = true → (m.source.qualifiedName? cls).isSome = true →
      m.source.HasOwnKey cls → cls.child? "body" = some body →
      body.namedChildren.find? (m.source.isMethodNamed name) = some method →
      m.source.qualifiedName? method = some qualified →
      KeptAlive sources markers qualified) := by
  constructor
  · intro callee scope qualified calls kind sees bound
    exact keptAlive_of_called markers
      (called_of_calls known calls (Program.resolveCallee_of_sees kind sees bound))
  · intro callee cls body method name qualified calls own isClass nameable ownKey place first named
    have visited : cls ∈ m.source.root.walk := own.mem_walk calls isClass
    obtain ⟨clsName, hclsName⟩ := Option.isSome_iff_exists.1 nameable
    obtain ⟨symbol, hsymbol⟩ : ∃ symbol, m.source.classSymbol? cls = some symbol := by
      rw [Source.classSymbol?, hclsName]
      exact ⟨_, rfl⟩
    have entry : m.classes.find? cls.key = some symbol := by
      obtain ⟨f, -, -, rfl⟩ := Program.exists_source_of_module? known
      rw [Module.index_source] at visited hsymbol ownKey
      exact Module.find?_classes_index visited isClass hsymbol ownKey
    have methodEntry := Source.find?_methods_classSymbol? hsymbol place first named
    exact keptAlive_of_called markers
      (called_of_calls known calls (Program.resolveCallee_of_isOwnMember own entry methodEntry))

/-- The file `a.ts` with the text `class A{k(){}m(){()=>this.k()}}function g(){}{g()}`. -/
def callingFile : Source where
  path := "a.ts"
  language := "typescript"
  bytes := Text.Utf8.encode "class A{k(){}m(){()=>this.k()}}function g(){}{g()}"
  tree := ⟨"program", true, none, 0, 50,
    [⟨"class_declaration", true, none, 0, 31,
      [⟨"type_identifier", true, some "name", 6, 7, []⟩,
       ⟨"class_body", true, some "body", 7, 31,
        [⟨"method_definition", true, none, 8, 13,
          [⟨"property_identifier", true, some "name", 8, 9, []⟩,
           ⟨"formal_parameters", true, some "parameters", 9, 11, []⟩,
           ⟨"statement_block", true, some "body", 11, 13, []⟩]⟩,
         ⟨"method_definition", true, none, 13, 30,
          [⟨"property_identifier", true, some "name", 13, 14, []⟩,
           ⟨"formal_parameters", true, some "parameters", 14, 16, []⟩,
           ⟨"statement_block", true, some "body", 16, 30,
            [⟨"expression_statement", true, none, 17, 29,
              [⟨"arrow_function", true, none, 17, 29,
                [⟨"formal_parameters", true, some "parameters", 17, 19, []⟩,
                 ⟨"call_expression", true, some "body", 21, 29,
                  [⟨"member_expression", true, some "function", 21, 27,
                    [⟨"this", true, some "object", 21, 25, []⟩,
                     ⟨"property_identifier", true, some "property", 26, 27, []⟩]⟩,
                   ⟨"arguments", true, some "arguments", 27, 29, []⟩]⟩]⟩]⟩]⟩]⟩]⟩]⟩,
     ⟨"function_declaration", true, none, 31, 45,
      [⟨"identifier", true, some "name", 40, 41, []⟩,
       ⟨"formal_parameters", true, some "parameters", 41, 43, []⟩,
       ⟨"statement_block", true, some "body", 43, 45, []⟩]⟩,
     ⟨"statement_block", true, none, 45, 50,
      [⟨"expression_statement", true, none, 46, 49,
        [⟨"call_expression", true, none, 46, 49,
          [⟨"identifier", true, some "function", 46, 47, []⟩,
           ⟨"arguments", true, some "arguments", 47, 49, []⟩]⟩]⟩]⟩]⟩

theorem callingFile_hasOwnKey {cls : Cursor} (visited : cls ∈ callingFile.root.walk)
    (isClass : cls.kind.isClass = true) : callingFile.HasOwnKey cls := by
  have named : ∀ a ∈ callingFile.root.walk, ∀ b ∈ a.children, b.node.named = true := by
    decide +kernel
  have one : (callingFile.root.walk.filter (·.kind.isClass)).length = 1 := by decide +kernel
  obtain ⟨only, list⟩ := List.length_eq_one_iff.1 one
  have unique : ∀ d ∈ callingFile.root.walk, d.kind.isClass = true → d = only := by
    intro d mem kind
    have mem' : d ∈ callingFile.root.walk.filter (·.kind.isClass) := List.mem_filter.2 ⟨mem, kind⟩
    rw [list] at mem'
    exact List.mem_singleton.1 mem'
  intro d within kind _
  rw [unique d (Cursor.mem_walk_of_within named within) kind, unique cls visited isClass]

/-- The call in the arrow function is one on the class around it. -/
theorem callingFile_callsOnThis :
    ∃ callee cls, (Module.index callingFile).Calls callee ∧
      (Module.index callingFile).IsOwnMember cls "k" callee ∧ cls.kind.isClass = true := by
  have site : ∃ call ∈ callingFile.root.walk, call.kind = "call_expression" ∧
      ∃ callee ∈ call.child? "function", callee.kind = "member_expression" ∧
        (∃ property ∈ callee.child? "property", (Module.index callingFile).text property = "k" ∧
          (property.kind = "property_identifier" ∨ property.kind = "private_property_identifier")) ∧
        ∃ object ∈ callee.child? "object", object.kind = "this" ∧
          (((Module.index callingFile).owner? object).bind
            fun e => (Symbol.entity e).class?).isSome = true := by decide +kernel
  obtain ⟨call, visited, callKind, callee, place, kind, property, object, hobject, isThis, owner⟩ :=
    site
  obtain ⟨symbol, hsymbol⟩ := Option.isSome_iff_exists.1 owner
  obtain ⟨e, found, isSymbol⟩ := Option.bind_eq_some_iff.1 hsymbol
  have isOwner : e = .cls symbol := by cases e <;> simp_all [Symbol.class?]
  obtain ⟨cls, owned, entry⟩ := Module.ownerAlong_eq_cls_iff.1 (isOwner ▸ found)
  obtain ⟨d, -, dClass, sameKey, -⟩ := Module.index_classesFiled callingFile _ _ entry
  have sameKind : d.kind = cls.kind := congrArg NodeKey.kind sameKey
  refine ⟨callee, cls, ⟨call, ?_, callKind, place⟩, ⟨kind, ⟨object, hobject, isThis, owned⟩, property⟩,
    sameKind ▸ dClass⟩
  rw [Module.index_source]
  exact visited

/-- The call in the block keeps the function alive, and the call in the arrow function the method. -/
theorem local_calls_keep_alive_callingFile :
    (∃ d ∈ allDeclarations (Program.ofSources [callingFile]) defaultTestMarkers [callingFile],
      d.qualifiedName = "\"a.ts\".g") ∧
    (∃ d ∈ allDeclarations (Program.ofSources [callingFile]) defaultTestMarkers [callingFile],
      d.qualifiedName = "\"a.ts\".A.k") ∧
    KeptAlive [callingFile] defaultTestMarkers "\"a.ts\".g" ∧
    KeptAlive [callingFile] defaultTestMarkers "\"a.ts\".A.k" := by
  have known : (Program.ofSources [callingFile]).module? "a.ts" = some (Module.index callingFile) :=
    rfl
  obtain ⟨byName, onThis⟩ := local_calls_keep_alive [callingFile] defaultTestMarkers known
  rw [Module.index_source] at onThis
  refine ⟨by decide +kernel, by decide +kernel, ?_, ?_⟩
  · have site : ∃ call ∈ callingFile.root.walk, call.kind = "call_expression" ∧
        ∃ callee ∈ call.child? "function", callee.kind = "identifier" ∧
          (Module.index callingFile).lookup? ((Module.index callingFile).text callee) callee =
            some (.entity (.function "\"a.ts\".g")) := by decide +kernel
    obtain ⟨call, visited, callKind, callee, place, kind, found⟩ := site
    obtain ⟨scope, sees, bound⟩ := Module.lookup?_eq_some_iff.1 found
    refine byName callee scope _ ⟨call, ?_, callKind, place⟩ kind sees bound
    rw [Module.index_source]
    exact visited
  · have classes : ∀ cls ∈ callingFile.root.walk, cls.kind.isClass = true →
        (callingFile.qualifiedName? cls).isSome = true ∧ ∃ body ∈ cls.child? "body",
          (body.namedChildren.find? (callingFile.isMethodNamed "k")).bind callingFile.qualifiedName? =
            some "\"a.ts\".A.k" := by decide +kernel
    obtain ⟨callee, cls, calls, own, isClass⟩ := callingFile_callsOnThis
    have visited := own.mem_walk calls isClass
    rw [Module.index_source] at visited
    obtain ⟨nameable, body, place, found⟩ := classes cls visited isClass
    obtain ⟨method, first, named⟩ := Option.bind_eq_some_iff.1 found
    exact onThis callee cls body method "k" _ calls own isClass nameable
      (callingFile_hasOwnKey visited isClass) place first named

end RepoAudit

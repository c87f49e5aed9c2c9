import RepoAudit.Symbol.Program

/-! # What expressions denote

Follows an expression to the entity it denotes: through scopes, imports, re-exports, types of
variables, members and superclasses.  What cannot be followed statically denotes nothing.

Every step costs one hop, and a search starts with `maxHops` of them, so that it ends on cyclic
imports and inheritance too.  With no hop left every search ends without an answer.

* `Program.resolveValue` – what an expression denotes;
* `Program.resolveExport` – what a module exports under a name;
* `Program.member` – a member of an entity;
* `Program.resolveCallee` – the function that a call reaches.
-/

namespace RepoAudit

open Syntax

namespace Module

/-- The class or object literal that `this` means at a node: the owner of the nearest method or
class body, reached through arrow functions only. -/
def ownerAlong (m : Module) : List Cursor → Option Entity
  | [] => none
  | c :: above =>
    if c.kind == "arrow_function" then m.ownerAlong above
    else if c.kind == "method_definition" then
      match above with
      | [] => none
      | body :: outer =>
        if body.kind == "class_body" then
          match outer with
          | cls :: _ => (m.classes.find? cls.key).map .cls
          | [] => none
        else if body.kind == "object" then (m.objects.find? body.key).map .object
        else none
    else if c.kind == "class_body" then
      match above with
      | cls :: _ => (m.classes.find? cls.key).map .cls
      | [] => none
    else if c.kind.isFunctionLike || c.kind == "program" then none
    else m.ownerAlong above

/-- What `this` means at a node. -/
def owner? (m : Module) (c : Cursor) : Option Entity :=
  m.ownerAlong c.ancestors

end Module

def Symbol.class? : Symbol → Option ClassSymbol
  | .entity (.cls c) => some c
  | _ => none

def ClassSymbol.symbol (c : ClassSymbol) : Symbol :=
  .entity (.cls c)

def ClassSymbol.same (a b : ClassSymbol) : Bool :=
  a.module == b.module && a.key == b.key

/-- The exports already looked for: pairs of a module's path and an exported name. -/
abbrev Visited := List (String × String)

namespace Program

/-- The longest chain of steps that a search may take. -/
def maxHops : Nat := 33

/-- Asks modules in turn until one answers, remembering what was looked for on the way. -/
def firstAnswer (ask : Visited → Module → Option Symbol × Visited) (visited : Visited) :
    List Module → Option Symbol × Visited
  | [] => (none, visited)
  | m :: rest =>
    match ask visited m with
    | (some s, visited) => (some s, visited)
    | (none, visited) => firstAnswer ask visited rest

/-- The node that names the type in an annotation or in a type with arguments. -/
def typeNode? (c : Cursor) : Option Cursor :=
  let c := if c.kind == "type_annotation" then c.firstNamed?.getD c else c
  if c.kind == "generic_type" then (c.child? "name").or c.firstNamed? else some c

mutual

def resolveValue (p : Program) : Nat → Module → Cursor → Option Symbol
  | 0, _, _ => none
  | hops + 1, m, c =>
    match c.kind with
    | "parenthesized_expression" =>
      match c.firstNamed? with
      | some inner => resolveValue p hops m inner
      | none => none
    | "identifier" =>
      match m.lookup? (m.text c) c with
      | some b => resolveBinding p hops m b
      | none => none
    | "shorthand_property_identifier" =>
      match m.lookup? (m.text c) c with
      | some b => resolveBinding p hops m b
      | none => none
    | "new_expression" => (resolveInstance p hops m c).map ClassSymbol.symbol
    | "this" => (m.owner? c).map .entity
    | "super" =>
      match m.owner? c with
      | some (.cls cls) => (superclass p hops cls).map ClassSymbol.symbol
      | _ => none
    | "member_expression" =>
      match c.child? "object", c.child? "property" with
      | some object, some property =>
        if property.kind == "property_identifier"
            || property.kind == "private_property_identifier" then
          match resolveValue p hops m object with
          | some container => member p hops container (m.text property)
          | none => none
        else none
      | _, _ => none
    | _ => none

def resolveBinding (p : Program) : Nat → Module → Binding → Option Symbol
  | 0, _, _ => none
  | hops + 1, m, b =>
    match b with
    | .entity e => some (.entity e)
    | .imported specifier name =>
      match p.resolveModule m.path specifier with
      | none => none
      | some target =>
        if name == wholeModule then some (.space target.path)
        else (resolveExport p hops [] target name).1
    | .variable (some type) _ => (resolveType p hops m type).map ClassSymbol.symbol
    | .variable none (some value) =>
      if value.kind == "new_expression" then
        (resolveInstance p hops m value).map ClassSymbol.symbol
      else if value.kind == "identifier" || value.kind == "member_expression" then
        resolveValue p hops m value
      else none
    | .variable none none => none

/-- The class of which a `new` expression makes an instance. -/
def resolveInstance (p : Program) : Nat → Module → Cursor → Option ClassSymbol
  | 0, _, _ => none
  | hops + 1, m, c =>
    match c.child? "constructor" with
    | none => none
    | some ctor => (resolveValue p hops m ctor).bind Symbol.class?

def resolveType (p : Program) : Nat → Module → Cursor → Option ClassSymbol
  | 0, _, _ => none
  | hops + 1, m, c =>
    match typeNode? c with
    | none => none
    | some node =>
      if node.kind == "type_identifier" then
        match m.lookup? (m.text node) node with
        | some b => (resolveBinding p hops m b).bind Symbol.class?
        | none => none
      else if node.kind == "nested_type_identifier" then
        match node.child? "module", node.child? "name" with
        | some scope, some name =>
          match resolveValue p hops m scope with
          | some container => (member p hops container (m.text name)).bind Symbol.class?
          | none => none
        | _, _ => none
      else none

/-- The class that a class extends; a class does not extend itself. -/
def superclass (p : Program) : Nat → ClassSymbol → Option ClassSymbol
  | 0, _ => none
  | hops + 1, cls =>
    match cls.heritage, p.module? cls.module with
    | some heritage, some m =>
      match (resolveValue p hops m heritage).bind Symbol.class? with
      | some parent => if parent.same cls then none else some parent
      | none => none
    | _, _ => none

/-- The member of a symbol: an export of a module, a member of an object literal, or a method or
field of a class or of the nearest class above it that has one. -/
def member (p : Program) : Nat → Symbol → String → Option Symbol
  | 0, _, _ => none
  | hops + 1, container, name =>
    match container with
    | .space path =>
      match p.module? path with
      | some m => (resolveExport p hops [] m name).1
      | none => none
    | .entity (.object object) =>
      match p.module? object.module, object.members.find? name with
      | some m, some target =>
        if target.kind == "method_definition" then
          (m.source.qualifiedName? target).map fun qualified => .entity (.function qualified)
        else if target.kind == "object" then
          (m.objects.find? target.key).map fun inner => .entity (.object inner)
        else resolveValue p hops m target
      | _, _ => none
    | .entity (.cls cls) =>
      match cls.methods.find? name with
      | some qualified => some (.entity (.function qualified))
      | none =>
        match cls.fields.find? name with
        | some typed =>
          match p.module? cls.module with
          | some m =>
            if typed.kind == "new_expression" then
              (resolveInstance p hops m typed).map ClassSymbol.symbol
            else (resolveType p hops m typed).map ClassSymbol.symbol
          | none => none
        | none =>
          match superclass p hops cls with
          | some parent => member p hops parent.symbol name
          | none => none
    | .entity (.function _) => none

/-- What a module exports under a name, and the exports looked for so far.  An export that is being
looked for already has no answer; modules passed on as a whole are asked in the order in which they
are listed. -/
def resolveExport (p : Program) : Nat → Visited → Module → String → Option Symbol × Visited
  | 0, visited, _, _ => (none, visited)
  | hops + 1, visited, m, name =>
    if visited.contains (m.path, name) then (none, visited)
    else
      let visited := (m.path, name) :: visited
      match m.exports.find? name with
      | some localName =>
        match m.outermost? localName with
        | some b => (resolveBinding p hops m b, visited)
        | none => (none, visited)
      | none =>
        match m.reexports.find? name with
        | some (specifier, imported) =>
          match p.resolveModule m.path specifier with
          | none => (none, visited)
          | some target =>
            if imported == wholeModule then (some (.space target.path), visited)
            else resolveExport p hops visited target imported
        | none =>
          if name == defaultName then (none, visited)
          else firstAnswer (fun visited target => resolveExport p hops visited target name) visited
            (m.starExports.filterMap (p.resolveModule m.path))

end

/-- What an expression denotes, searched with all hops. -/
def valueOf (p : Program) (m : Module) (c : Cursor) : Option Symbol :=
  p.resolveValue maxHops m c

def typeOf (p : Program) (m : Module) (c : Cursor) : Option ClassSymbol :=
  p.resolveType maxHops m c

def exportOf (p : Program) (m : Module) (name : String) : Option Symbol :=
  (p.resolveExport maxHops [] m name).1

def superclassOf (p : Program) (cls : ClassSymbol) : Option ClassSymbol :=
  p.superclass maxHops cls

/-- The qualified name of the function that a call reaches, given the expression it calls. -/
def resolveCallee (p : Program) (m : Module) (callee : Cursor) : Option String :=
  match p.valueOf m callee with
  | some (.entity (.function name)) => some name
  | _ => none

end Program

end RepoAudit

import RepoAudit.Source
import RepoAudit.Table

/-! # Symbols, bindings and modules

What a name can stand for, and the index of one module.

* `Entity` – something declared in a module: a function, a class or an object literal;
* `Symbol` – what an expression denotes: an entity, or a whole module;
* `Binding` – what a scope records for a name;
* `Module` – the index of a source file: scopes, classes, objects and exports.
-/

namespace RepoAudit

open Syntax

/-- A class.  `fields` leads from a field to the node that tells its type: an annotation, or a `new`
expression assigned to it. -/
structure ClassSymbol where
  module : String
  key : NodeKey
  name : String
  methods : Table String String := {}
  fields : Table String Cursor := {}
  heritage : Option Cursor := none
  deriving Inhabited

/-- An object literal.  `members` leads from a member to its method or its value. -/
structure ObjectSymbol where
  module : String
  key : NodeKey
  name : String
  members : Table String Cursor := {}
  deriving Inhabited

inductive Entity where
  | function (name : String)
  | cls (c : ClassSymbol)
  | object (o : ObjectSymbol)
  deriving Inhabited

/-- What an expression denotes: an entity, or a module as a whole. -/
inductive Symbol where
  | entity (e : Entity)
  | space (module : String)
  deriving Inhabited

/-- What a scope records for a name: an entity, a name imported from elsewhere, or a variable with
the nodes of its type and its value. -/
inductive Binding where
  | entity (e : Entity)
  | imported (specifier name : String)
  | variable (type value : Option Cursor)
  deriving Inhabited

instance (qualified : String) :
    (found : Option Symbol) → Decidable (found = some (.entity (.function qualified)))
  | some (.entity (.function name)) => decidable_of_iff (name = qualified) (by simp)
  | some (.entity (.cls _)) | some (.entity (.object _)) => isFalse (by simp)
  | some (.space _) | none => isFalse (by simp)

instance (qualified : String) :
    (found : Option Binding) → Decidable (found = some (.entity (.function qualified)))
  | some (.entity (.function name)) => decidable_of_iff (name = qualified) (by simp)
  | some (.entity (.cls _)) | some (.entity (.object _)) => isFalse (by simp)
  | some (.imported _ _) | some (.variable _ _) | none => isFalse (by simp)

/-- A variable of which nothing is known. -/
def Binding.unknown : Binding := .variable none none

/-- The name under which an import takes a module as a whole. -/
def wholeModule : String := "*"

def defaultName : String := "default"

/-- The index of a source file.

* `scopes` – for each node that opens a scope, what its names stand for;
* `classes`, `objects` – the classes and object literals by their nodes;
* `exports` – exported names and the local names behind them;
* `exportedLocals` – local names that some export mentions;
* `reexports` – names passed on from another module: where from, and under which name there;
* `starExports` – modules of which everything is passed on. -/
structure Module where
  source : Source
  scopes : Table NodeKey (Table String Binding) := {}
  classes : Table NodeKey ClassSymbol := {}
  objects : Table NodeKey ObjectSymbol := {}
  exports : Table String String := {}
  exportedLocals : List String := []
  reexports : Table String (String × String) := {}
  starExports : List String := []
  deriving Inhabited

namespace Module

def path (m : Module) : String := m.source.path

def text (m : Module) (c : Cursor) : String := m.source.text c.node

/-- Records what a name stands for in a scope, unless the scope has it already. -/
def bind (m : Module) (scope : NodeKey) (name : String) (b : Binding) : Module :=
  { m with scopes := m.scopes.alter scope fun names => (names.getD {}).insertNew name b }

/-- What a name stands for in the scope of one node. -/
def boundAt? (m : Module) (scope : NodeKey) (name : String) : Option Binding :=
  (m.scopes.find? scope).bind (·.find? name)

/-- What a name stands for in the outermost scope. -/
def outermost? (m : Module) (name : String) : Option Binding :=
  m.boundAt? m.source.tree.key name

/-- The innermost binding of a name that is visible at a node. -/
def lookup? (m : Module) (name : String) (site : Cursor) : Option Binding :=
  site.selfAndAncestors.findSome? fun c => m.boundAt? c.key name

end Module

end RepoAudit

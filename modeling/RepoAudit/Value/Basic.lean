import RepoAudit.Value.Moment

/-! # Values

Data that comes from outside: manifests, configuration, answers of a service.  Whole numbers and
floating-point numbers are told apart, and an object keeps its fields in order.

* `Value` – a value;
* `Value.field?`, `Value.truthy` – access and emptiness;
* `Value.setField` – a field of an object under construction.
-/

namespace RepoAudit

inductive Value where
  | null
  | bool (b : Bool)
  | int (n : Int)
  | float (x : Float)
  | text (s : String)
  | moment (m : Moment)
  | list (items : List Value)
  | object (fields : List (String × Value))
  deriving Repr, Inhabited

inductive Number where
  | int (n : Int)
  | float (x : Float)
  deriving Repr, Inhabited

namespace Value

def ofNumber : Number → Value
  | .int n => .int n
  | .float x => .float x

def ofText? : Option String → Value
  | some s => .text s
  | none => .null

def ofInt? : Option Int → Value
  | some n => .int n
  | none => .null

def lookup (key : String) : List (String × Value) → Option Value
  | [] => none
  | (k, v) :: rest => if k = key then some v else lookup key rest

/-- The field of an object; nothing when the value is no object or has no such field. -/
def field? : Value → String → Option Value
  | .object fields, key => lookup key fields
  | _, _ => none

/-- Gives a key a value; a key that is already there keeps its place. -/
def setField (key : String) (v : Value) : List (String × Value) → List (String × Value)
  | [] => [(key, v)]
  | (k, w) :: rest => if k = key then (k, v) :: rest else (k, w) :: setField key v rest

/-- Fields in order of first arrival; of two with one key the last gives the value. -/
def collectFields (fields : List (String × Value)) : List (String × Value) :=
  fields.foldl (fun acc f => setField f.1 f.2 acc) []

/-- Whether a value says something: not null, false, zero or empty. -/
def truthy : Value → Bool
  | .null => false
  | .bool b => b
  | .int n => n != 0
  | .float x => x != 0
  | .text s => !s.isEmpty
  | .moment _ => true
  | .list items => !items.isEmpty
  | .object fields => !fields.isEmpty

/-- A field of an object, where an absent field counts as null. -/
def getD (v : Value) (key : String) : Value :=
  (v.field? key).getD .null

end Value

end RepoAudit

import RepoAudit.Syntax.Node

/-! # Kinds of nodes that matter

The kinds of the grammar that open scopes, declare things or contribute to names.
-/

namespace RepoAudit.Syntax.Kind

def functionDeclarations : List Kind :=
  ["function_declaration", "generator_function_declaration"]

def functionExpressions : List Kind :=
  ["function_expression", "function", "generator_function", "arrow_function"]

/-- Everything with a body of its own to run. -/
def functionLike : List Kind :=
  functionDeclarations ++ functionExpressions ++ ["method_definition"]

def classes : List Kind :=
  ["class_declaration", "abstract_class_declaration", "class"]

def namespaces : List Kind :=
  ["internal_module", "module"]

/-- Statements that open a scope for `let` and `const`. -/
def blocks : List Kind :=
  ["statement_block", "for_statement", "for_in_statement", "catch_clause"]

def fields : List Kind :=
  ["public_field_definition", "field_definition"]

def parameters : List Kind :=
  ["required_parameter", "optional_parameter"]

def isFunctionDeclaration (k : Kind) : Bool := functionDeclarations.contains k

def isFunctionExpression (k : Kind) : Bool := functionExpressions.contains k

def isFunctionLike (k : Kind) : Bool := functionLike.contains k

def isClass (k : Kind) : Bool := classes.contains k

def isNamespace (k : Kind) : Bool := namespaces.contains k

def isBlock (k : Kind) : Bool := blocks.contains k

def isField (k : Kind) : Bool := fields.contains k

def isParameter (k : Kind) : Bool := parameters.contains k

/-- Whether a kind contributes a part to the qualified names of what it encloses. -/
def isContainer (k : Kind) : Bool :=
  isFunctionLike k || isClass k || isNamespace k || k == "object"

theorem isFunctionLike_of_isFunctionDeclaration {k : Kind} (h : isFunctionDeclaration k = true) :
    isFunctionLike k = true := by
  simp only [isFunctionDeclaration, isFunctionLike, functionLike, List.contains_iff_mem,
    List.mem_append] at h ⊢
  exact .inl (.inl h)

theorem isFunctionLike_of_isFunctionExpression {k : Kind} (h : isFunctionExpression k = true) :
    isFunctionLike k = true := by
  simp only [isFunctionExpression, isFunctionLike, functionLike, List.contains_iff_mem,
    List.mem_append] at h ⊢
  exact .inl (.inr h)

theorem ne_of_isFunctionDeclaration {k other : Kind} (h : isFunctionDeclaration k = true)
    (differs : isFunctionDeclaration other = false) : k ≠ other := by
  rintro rfl
  rw [h] at differs
  cases differs

/-- A class is no declared function. -/
theorem isFunctionDeclaration_of_isClass {k : Kind} (h : isClass k = true) :
    isFunctionDeclaration k = false := by
  simp only [isClass, classes, List.contains_iff_mem, List.mem_cons, List.not_mem_nil, or_false] at h
  rcases h with rfl | rfl | rfl <;> rfl

end RepoAudit.Syntax.Kind

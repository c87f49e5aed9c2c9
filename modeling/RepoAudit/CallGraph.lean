import RepoAudit.Table
import RepoAudit.Text.Split

/-! # Call graphs

Who calls whom.  A call graph leads from the qualified name of a function to the set of its known
callers.  Functions are listed in the order in which they were first called, callers by code point.

* `CallGraph.addEdge`, `CallGraph.merge` – the two ways to grow;
* `CallGraph.callersOf` – the known callers of a function;
* `CallGraph.edges` – the whole graph as a list.
-/

namespace RepoAudit

/-- The known callers of every called function.  No list of callers has repetitions. -/
structure CallGraph where
  callers : Table String (List String) := {}
  deriving Inhabited

namespace CallGraph

def empty : CallGraph := {}

/-- Records that `caller` calls `callee`. -/
def addEdge (g : CallGraph) (callee caller : String) : CallGraph :=
  ⟨g.callers.alter callee fun known => Text.insertText (known.getD []) caller⟩

def callersOf (g : CallGraph) (callee : String) : List String :=
  (g.callers.find? callee).getD []

def addCallers (g : CallGraph) (entry : String × List String) : CallGraph :=
  ⟨g.callers.alter entry.1 fun known => entry.2.foldl Text.insertText (known.getD [])⟩

def merge (g other : CallGraph) : CallGraph :=
  other.callers.entries.foldl addCallers g

/-- Whether a function has a known caller. -/
def contains (g : CallGraph) (callee : String) : Bool :=
  !(g.callersOf callee).isEmpty

def size (g : CallGraph) : Nat :=
  g.callers.size

/-- Every call as a pair of callee and caller. -/
def edges (g : CallGraph) : List (String × String) :=
  g.callers.entries.flatMap fun entry => (Text.sorted entry.2).map fun caller => (entry.1, caller)

end CallGraph

end RepoAudit

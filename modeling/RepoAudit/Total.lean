/-! # Totals

The total of a list of numbers.
-/

namespace RepoAudit

def total (ns : List Nat) : Nat :=
  ns.foldr (· + ·) 0

end RepoAudit

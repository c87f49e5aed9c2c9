/-! # Sets of characters given by ranges

Properties of characters beyond ASCII are listed as closed ranges of code points.
-/

namespace RepoAudit.Text

/-- A closed range of code points. -/
abbrev CodeRange := Nat × Nat

def CodeRange.contains (r : CodeRange) (c : Char) : Bool :=
  r.1 ≤ c.toNat && c.toNat ≤ r.2

def inRanges (rs : List CodeRange) (c : Char) : Bool :=
  rs.any (CodeRange.contains · c)

end RepoAudit.Text

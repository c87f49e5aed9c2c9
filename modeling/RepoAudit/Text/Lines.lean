/-! # Line ends

Text files are read with one kind of line end: a carriage return, alone or before a line feed,
counts as a line feed.
-/

namespace RepoAudit.Text

/-- Replaces every carriage return, and the line feed right after it, by one line feed. -/
def unifyLineEnds : List Char → List Char
  | [] => []
  | '\r' :: '\n' :: cs => '\n' :: unifyLineEnds cs
  | '\r' :: cs => '\n' :: unifyLineEnds cs
  | c :: cs => c :: unifyLineEnds cs

end RepoAudit.Text

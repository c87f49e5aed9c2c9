import RepoAudit.Console.Wrap

/-! # Framed text on the console

A few lines in a frame, with a title in its upper edge.

* `Panel` – the title and the lines;
* `Panel.lines` – the drawing.
-/

namespace RepoAudit

open Wrap

structure Panel where
  title : String
  body : List String
  deriving Inhabited

namespace Panel

/-- The width inside the frame: that of the widest line, or of the title, with spaces around it. -/
def innerWidth (p : Panel) : Nat :=
  let body := p.body.foldl (fun w line => max w (Text.width line.toList)) 0
  max (body + 2) (Text.width p.title.toList + 4)

/-- The upper edge: the title in its middle, the smaller half of the line to the left. -/
def topLine (p : Panel) : List Char :=
  let title := ' ' :: p.title.toList ++ [' ']
  let free := p.innerWidth - Text.width title
  '╭' :: List.replicate (free / 2) '─' ++ title ++ List.replicate (free - free / 2) '─' ++ ['╮']

def lines (p : Panel) : List (List Char) :=
  [p.topLine]
    ++ p.body.map (fun line =>
      '│' :: ' ' :: (align .left (p.innerWidth - 2) (Styled.plain line.toList)).chars ++ [' ', '│'])
    ++ ['╰' :: List.replicate p.innerWidth '─' ++ ['╯']]

end Panel

end RepoAudit

import RepoAudit.Console.Wrap
import RepoAudit.Decimal.Binary

/-! # Tables on the console

A table has a title, a header and rows, drawn with lines.  Every column is as wide as its widest cell;
if the console is too narrow, the widest columns give way first.

* `Grid` – a table;
* `Grid.columnWidths` – the widths of its columns;
* `Grid.lines` – the drawing.
-/

namespace RepoAudit

open Wrap

structure Column where
  header : String
  side : Side := .left
  /-- The least width of the text in it. -/
  least : Nat := 0
  deriving Inhabited

/-- A table; every row has a cell for each column. -/
structure Grid where
  title : String
  columns : List Column
  rows : List (List Styled)
  deriving Inhabited

namespace Grid

/-- The spaces to the left and right of a cell together. -/
def padding : Nat := 2

/-- The columns that the lines between and around the cells take. -/
def lineWidth (g : Grid) : Nat := g.columns.length + 1

/-- The cells of each column, the header first. -/
def cells (g : Grid) : List (Column × List (List Char)) :=
  g.columns.zipIdx.map fun (c, i) =>
    (c, c.header.toList :: g.rows.map fun row => ((row[i]?).map Styled.chars).getD [])

/-- The width that a column wants, with its padding, given the most it may have. -/
def wanted (most : Nat) (column : Column × List (List Char)) : Nat :=
  let widths := column.2.map fun cs => widest cs + padding
  let most := min most (widths.foldl max 0)
  if column.1.least = 0 then most else max most (column.1.least + padding)

/-! ## Giving way -/

/-- Takes `total` away from the chosen widths in equal shares, but from none more than its limit. -/
def shareOut (total shares : Nat) : List (Bool × Nat × Nat) → List Nat
  | [] => []
  | (chosen, limit, value) :: rest =>
    if chosen && limit ≠ 0 then
      let taken := min limit (Decimal.Fraction.round ⟨total, shares⟩)
      (value - taken) :: shareOut (total - taken) (shares - 1) rest
    else value :: shareOut total shares rest

def reduce (total : Nat) (items : List (Bool × Nat × Nat)) : List Nat :=
  shareOut total (items.filter fun (chosen, limit, _) => chosen && limit ≠ 0).length items

/-- Narrows the widest columns, step by step, until the table fits or all columns are as wide;
`fuel` is at least the width of the table. -/
def collapse : Nat → Nat → List Nat → List Nat
  | 0, _, widths => widths
  | fuel + 1, most, widths =>
    let excess := total widths - most
    let first := widths.foldl max 0
    let second := (widths.filter (· ≠ first)).foldl max 0
    let step := min excess (first - second)
    if excess = 0 || step = 0 then widths
    else collapse fuel most (reduce excess (widths.map fun w => (w == first, step, w)))

/-- The widths of the columns on a console with `space` columns, padding included. -/
def columnWidths (g : Grid) (space : Nat) : List Nat :=
  let most := space - g.lineWidth
  let widths := g.cells.map (wanted most)
  if most < total widths then
    let narrowed := collapse (total widths) most widths
    let narrowed := reduce (total narrowed - most) (narrowed.map fun w => (true, w, w))
    (g.cells.zip narrowed).map fun (column, w) => wanted w column
  else widths

/-! ## Drawing -/

structure Rule where
  left : Char
  line : Char
  between : Char
  right : Char

def ruleLine (r : Rule) (widths : List Nat) : List Char :=
  r.left :: List.intercalate [r.between] (widths.map fun w => List.replicate w r.line) ++ [r.right]

/-- A line of a cell with a space on both sides of it.  A cell that got too narrow when its line was cut
is filled up. -/
def padded (width : Nat) (line : List (List Char)) : List Char :=
  (fill width ([[' ']] ++ line ++ [[' ']])).flatten

/-- The lines of a row: as many as its tallest cell has. -/
def rowLines (bar : Char) (columns : List Column) (widths : List Nat) (row : List Styled) :
    Except StyleError (List (List Char)) := do
  let cells ← (columns.zip (widths.zip row)).mapM fun (c, w, s) => do
    let lines ← Wrap.cell c.side (w - padding) s
    return (w, lines.map (padded w))
  let height := cells.foldl (fun h c => max h c.2.length) 1
  return (List.range height).map fun i =>
    let parts := cells.map fun (w, lines) => (lines[i]?).getD (blanks w)
    bar :: List.intercalate [bar] parts ++ [bar]

def lines (g : Grid) (space : Nat) : Except StyleError (List (List Char)) := do
  let widths := g.columnWidths space
  let whole := total widths + g.lineWidth
  let header ← rowLines '┃' g.columns widths (g.columns.map fun c => Styled.plain c.header.toList)
  let rows ← g.rows.mapM (rowLines '│' g.columns widths)
  return [(align .middle whole (Styled.plain g.title.toList)).chars,
      ruleLine ⟨'┏', '━', '┳', '┓'⟩ widths]
    ++ header ++ [ruleLine ⟨'┡', '━', '╇', '┩'⟩ widths]
    ++ rows.flatten ++ [ruleLine ⟨'└', '─', '┴', '┘'⟩ widths]

end Grid

end RepoAudit

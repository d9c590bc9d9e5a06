import ClusterMatrix.Table.Cell

/-!
# Tables of two columns

A table is drawn in a box on a screen of fixed width, under a centred title. A column is as wide as its widest
cell asks for. If the two ask for more than there is, the wider one gives way first, and then both share.
-/

namespace ClusterMatrix

/-- What stands in the two columns of a row. -/
structure Table.Row (A : Type) where
  left : A
  right : A
deriving DecidableEq, Repr

structure Table where
  title : List Char
  header : Table.Row (List Char)
  rows : List (Table.Row Text.Spanned)
deriving DecidableEq, Repr

namespace Table

def screenWidth : Nat := 80

/-- What is left for the columns between the three vertical lines. -/
def room : Nat := screenWidth - 3

/-- The blanks at both sides of a cell. -/
def padding : Nat := 2

/-- The width that a column of some cells asks for. -/
def natural (cells : List (List Char)) : Nat :=
  cells.foldr (fun cell n ↦ max (min room (widest cell + padding)) n) 0

/-- Half of a number, rounded to the even neighbour. -/
def evenHalf (n : Nat) : Nat := if n % 4 = 3 then n / 2 + 1 else n / 2

/-- The widths of two columns that ask for `a` and `b`. -/
def share (a b : Nat) : Nat × Nat :=
  let least := min a b
  if a + b ≤ room then (a, b)
  else if 2 * least ≤ room then if a ≤ b then (a, room - a) else (room - b, b)
  else
    let excess := 2 * least - room
    (least - evenHalf excess, least - (excess - evenHalf excess))

def lefts (t : Table) : List (List Char) := t.header.left :: t.rows.map (·.left.text)

def rights (t : Table) : List (List Char) := t.header.right :: t.rows.map (·.right.text)

def columns (t : Table) : Nat × Nat := share (natural t.lefts) (natural t.rights)

/-- The lines of a cell in a column, with blank lines up to a height. -/
def tallLines (column height : Nat) (lines : List Line) : Except Fault (List Line) :=
  ((lines ++ List.replicate (height - lines.length) [Text.blanks column]).mapM (Line.fit column)).mapError .crop

/-- One line of a row, between vertical lines. -/
def framed (bar : Char) (left right : Line) : Line := [bar] :: left ++ [bar] :: right ++ [[bar]]

def rowLines (bar : Char) (columns : Nat × Nat) (row : Row Text.Spanned) : Except Fault (List Line) := do
  let left ← cellLines (columns.1 - padding) row.left
  let right ← cellLines (columns.2 - padding) row.right
  let height := max left.length right.length
  let left ← tallLines columns.1 height left
  let right ← tallLines columns.2 height right
  return List.zipWith (framed bar) left right

/-- A horizontal line with its corners and its crossing. -/
def rule (start line cross stop : Char) (columns : Nat × Nat) : Line :=
  [start :: List.replicate columns.1 line ++ cross :: List.replicate columns.2 line ++ [stop]]

def centred (w : Nat) (s : List Char) : List Char :=
  let space := w - Text.width s
  Text.blanks (space / 2) ++ s ++ Text.blanks (space - space / 2)

def titleLine (t : Table) : Line := [centred (t.columns.1 + t.columns.2 + 3) t.title]

def headLines (t : Table) : Except Fault (List Line) := do
  let names ← rowLines '┃' t.columns ⟨.plain t.header.left, .plain t.header.right⟩
  return t.titleLine :: rule '┏' '━' '┳' '┓' t.columns :: names ++ [rule '┡' '━' '╇' '┩' t.columns]

/-- The lines of the rows. -/
def bodyLines (t : Table) : Except Fault (List Line) := do
  return (← t.rows.mapM (rowLines '│' t.columns)).flatten

def lines (t : Table) : Except Fault (List Line) := do
  return (← t.headLines) ++ (← t.bodyLines) ++ [rule '└' '─' '┴' '┘' t.columns]

/-- A table as it is drawn, with a line feed behind each line. No line goes beyond the screen. -/
def text (t : Table) : Except Fault (List Char) := do
  let lines ← ((← t.lines).mapM (Line.atMost screenWidth)).mapError .crop
  return lines.flatMap fun l ↦ l.flatten ++ ['\n']

end Table

end ClusterMatrix

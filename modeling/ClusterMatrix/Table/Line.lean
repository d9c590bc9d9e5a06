import ClusterMatrix.Text.Grapheme

/-!
# Lines of runs

A line of a table is drawn run by run, and each run takes its own width, whatever stands beside it.
-/

namespace ClusterMatrix.Table

abbrev Line := List (List Char)

namespace Line

def width (l : Line) : Nat := l.foldr (fun r n ↦ Text.width r + n) 0

/-- The start of a line that is wider than `room`. -/
def crop (room : Nat) : Line → Except Text.CropFault Line
  | [] => .ok []
  | r :: rs =>
    if Text.width r < room then (crop (room - Text.width r) rs).map (r :: ·)
    else (Text.setWidth room r).map fun r ↦ [r]

/-- A line that takes no more than `room`. -/
def atMost (room : Nat) (l : Line) : Except Text.CropFault Line :=
  if width l ≤ room then .ok l else crop room l

/-- A line brought to a width. -/
def fit (w : Nat) (l : Line) : Except Text.CropFault Line :=
  if width l ≤ w then .ok (l ++ [Text.blanks (w - width l)]) else crop w l

end Line

end ClusterMatrix.Table

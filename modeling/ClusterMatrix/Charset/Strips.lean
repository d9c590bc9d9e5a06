/-!
# Tables of characters

A table holds characters by the numbers of their cells, as strips of neighbouring cells: the number of the first
cell, and the characters. A strip stays within 256 numbers, and a replacement character leaves a cell empty.
-/

namespace ClusterMatrix.Charset

abbrev Strips := List (Nat × String)

namespace Strips

/-- The character of a cell. -/
def find? (t : Strips) (cell : Nat) : Option Char :=
  match t.filter fun s ↦ s.1 / 256 = cell / 256 && s.1 ≤ cell with
  | [] => none
  | first :: rest =>
    let (start, text) := rest.getLastD first
    (text.toList.drop (cell - start)).head?.filter (· ≠ '\uFFFD')

/-- All characters of a table. -/
def chars (t : Strips) : List Char := t.flatMap fun s ↦ s.2.toList

/-- The code points from `first` on, `count` of them, that no cell holds, in ascending order. -/
def lacking (t : Strips) (first count : Nat) : Array Nat :=
  let held := t.chars.foldl
    (fun (held : Array Bool) c ↦ if first ≤ c.toNat then held.setIfInBounds (c.toNat - first) true else held)
    (Array.replicate count false)
  ((Array.range count).filter fun n ↦ !held.getD n false).map (first + ·)

end Strips

/-- The number of the cell that two bytes name. -/
def cell (a b : UInt8) : Nat := a.toNat * 256 + b.toNat

/-- The number of the cell in a table of 94 rows and columns that two bytes name by their last seven bits. -/
def lowerCell (a b : UInt8) : Nat := (a.toNat - 128) * 256 + (b.toNat - 128)

end ClusterMatrix.Charset

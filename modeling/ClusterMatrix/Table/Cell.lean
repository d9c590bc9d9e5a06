import ClusterMatrix.Table.Line
import ClusterMatrix.Text.Spanned

/-!
# Cells of a table

A cell shows a text within a given width. The text is broken into lines between its words; a word that is
wider than the cell is cut, and an ellipsis takes the place of what is lost. Every line of a cell is brought to the
width of the cell, with a blank at each side.
-/

namespace ClusterMatrix.Table

open Text (Spanned)

/-- Why a table cannot be drawn. -/
inductive Fault where
  | brokenStyle
  | crop (f : Text.CropFault)
deriving DecidableEq, Repr

def tabStop : Nat := 8

/-- The parts of a text, each up to a tab and with it. -/
def tabbedParts : List Char → List (List Char)
  | [] => []
  | c :: s => Text.prepend c (c = '\t') (tabbedParts s)

theorem flatten_tabbedParts (s : List Char) : (tabbedParts s).flatten = s := by
  induction s with
  | nil => rfl
  | cons c s ih => rw [tabbedParts, Text.flatten_prepend, ih]

/-- Blanks behind a text, under the spans that reach its end. -/
def stretch (n : Nat) (t : Spanned) : Spanned :=
  ⟨t.text ++ Text.blanks n,
    t.spans.map fun s ↦ if s.stop < t.text.length then s else { s with stop := s.stop + n }⟩

/-- Puts blanks in place of the tabs, up to the next tab stop. The parts before came up to `position`. -/
def expandParts (position : Nat) : List Spanned → Spanned
  | [] => .plain []
  | p :: ps =>
    if p.text.getLast? = some '\t' then
      let p := p.withText (p.text.dropLast ++ [' '])
      let reached := position + Text.width p.text
      let stop := (reached + tabStop - 1) / tabStop * tabStop
      stretch (stop - reached) p ++ expandParts stop ps
    else p

def expandTabs (t : Spanned) : Spanned :=
  if t.text.contains '\t' then expandParts 0 (Spanned.piecesFrom t.spans 0 0 (tabbedParts t.text)) else t

theorem expandTabs_of_not_mem {t : Spanned} (h : '\t' ∉ t.text) : expandTabs t = t := by
  rw [expandTabs, if_neg]
  rwa [List.contains_iff_mem]

def ellipsis : Char := '…'

/-- Leaves out the end of a line that is wider than `w`. -/
def truncate (w : Nat) (t : Spanned) : Except Text.CropFault Spanned :=
  if Text.width t.text ≤ w then .ok t
  else (Text.setWidth (w - 1) t.text).map fun s ↦ t.withText (s ++ [ellipsis])

/-- Puts blanks behind a line that is narrower than `w`. -/
def pad (w : Nat) (t : Spanned) : Spanned := t.withText (t.text ++ Text.blanks (w - Text.width t.text))

/-- Brings a line to a width. A joiner at its end hides the first character behind it, so it may still be too wide or
too narrow. -/
def fitted (w : Nat) (t : Spanned) : Except Text.CropFault Spanned :=
  if Text.width t.text ≤ w then truncate w (pad w t) else (truncate w t).bind (truncate w)

/-- Drops blanks at the end, as far as there are more characters than `w`. -/
def dropOverhang (w : Nat) (t : Spanned) : Spanned :=
  t.withText (t.text.take (max w (Text.trimEnd t.text).length))

/-- Breaks chunks into lines that begin with `line`, whose chunks take `used` cells. A word goes to the next line
if the line has no room for it; the blanks behind it may stand over. -/
def breakChunks (w : Nat) (line : List Char) (used : Nat) : List (List Char) → List (List Char)
  | [] => [line]
  | p :: ps =>
    if used + Text.width (Text.trimEnd p) ≤ w then breakChunks w (line ++ p) (used + Text.width p) ps
    else line :: breakChunks w p (Text.width p) ps

def breakLine (w : Nat) (s : List Char) : List (List Char) :=
  match Text.chunks s with
  | [] => [s]
  | p :: ps => breakChunks w p (Text.width p) ps

theorem flatten_breakChunks (w : Nat) (line : List Char) (used : Nat) (ps : List (List Char)) :
    (breakChunks w line used ps).flatten = line ++ ps.flatten := by
  fun_induction breakChunks w line used ps <;> simp_all

/-- The lines of a text before they are brought to the width of the cell. -/
def foldedLines (w : Nat) (t : Spanned) : List Spanned :=
  (t.splitOn '\n').flatMap fun line ↦
    let line := expandTabs line
    (line.inPieces 0 (breakLine w line.text)).map (dropOverhang w)

/-- The lines of a cell of a width, with a blank at each side. -/
def cellLines (w : Nat) (t : Spanned) : Except Fault (List Line) :=
  match (foldedLines w t).mapM (fitted w) with
  | .error f => .error (.crop f)
  | .ok lines =>
    if lines.any Spanned.isBroken then .error .brokenStyle
    else match lines.mapM fun l ↦ Line.fit w l.runs with
      | .error f => .error (.crop f)
      | .ok lines => (lines.mapM fun l ↦ Line.fit (w + 2) ([' '] :: l ++ [[' ']])).mapError .crop

def lineEnds : Text.Ranges := [(0x0A, 0x0D), (0x1C, 0x1E), (0x85, 0x85), (0x2028, 0x2029)]

/-- The width of the widest line, where any character that ends a line counts. -/
def widest (s : List Char) : Nat :=
  let lines := Text.splitOn '\n' (s.map fun c ↦ if lineEnds.contains c.toNat then '\n' else c)
  (lines.map Text.width).foldr max 0

end ClusterMatrix.Table

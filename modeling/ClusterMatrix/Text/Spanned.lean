import ClusterMatrix.Text.Split
import ClusterMatrix.Text.Words

/-!
# Texts with styles

A style covers a span of characters. A text that is cut into several pieces has in each of them what is left of its
spans there; a span of no characters is lost then. A text is drawn in runs: wherever a span begins or ends, a new
run begins. The runs of a text give the text when they are joined.
-/

namespace ClusterMatrix.Text

/-- The characters from `start` on and before `stop` have a style. A broken style cannot be drawn. -/
structure Span where
  start : Nat
  stop : Nat
  isBroken : Bool
deriving DecidableEq, Repr

namespace Span

/-- What is left of a span in the `n` characters from `first` on. -/
def within? (first n : Nat) (s : Span) : Option Span :=
  let start := s.start - first
  let stop := min (s.stop - first) n
  if start < stop then some { s with start, stop } else none

/-- What is left of a span if only the first `n` characters are kept. -/
def upTo? (n : Nat) (s : Span) : Option Span :=
  if s.start < n then some { s with stop := min s.stop n } else none

def shift (n : Nat) (s : Span) : Span := { s with start := s.start + n, stop := s.stop + n }

end Span

structure Spanned where
  text : List Char
  spans : List Span
deriving DecidableEq, Repr

namespace Spanned

/-- A text without styles. -/
def plain (s : List Char) : Spanned := ⟨s, []⟩

instance : Append Spanned where
  append a b := ⟨a.text ++ b.text, a.spans ++ b.spans.map (Span.shift a.text.length)⟩

@[simp] theorem text_append (a b : Spanned) : (a ++ b).text = a.text ++ b.text := rfl

/-- Pieces of a text that follow each other from `first` on, with `gap` characters between two of them. -/
def piecesFrom (spans : List Span) (gap first : Nat) : List (List Char) → List Spanned
  | [] => []
  | p :: ps =>
    ⟨p, spans.filterMap (Span.within? first p.length)⟩ :: piecesFrom spans gap (first + p.length + gap) ps

/-- A text cut into pieces, with `gap` characters between two of them. -/
def inPieces (gap : Nat) (t : Spanned) : List (List Char) → List Spanned
  | [_] => [t]
  | ps => piecesFrom t.spans gap 0 ps

def splitOn (sep : Char) (t : Spanned) : List Spanned := t.inPieces 1 (Text.splitOn sep t.text)

theorem splitOn_of_not_mem {sep : Char} {t : Spanned} (h : sep ∉ t.text) : t.splitOn sep = [t] := by
  rw [splitOn, Text.splitOn_of_not_mem h, inPieces]

/-- Another text under the same spans, which are cut where it is shorter. -/
def withText (s : List Char) (t : Spanned) : Spanned :=
  ⟨s, if s.length < t.text.length then t.spans.filterMap (Span.upTo? s.length) else t.spans⟩

@[simp] theorem withText_text (t : Spanned) : t.withText t.text = t := by simp [withText]

def isBroken (t : Spanned) : Bool := t.spans.any Span.isBroken

/-- A span begins or ends in front of a character. -/
def isBorder (t : Spanned) (i : Nat) : Bool := t.spans.any fun s ↦ s.start = i || s.stop = i

def runsFrom (border : Nat → Bool) (i : Nat) : List Char → List (List Char)
  | [] => []
  | c :: s => prepend c (border (i + 1)) (runsFrom border (i + 1) s)

def runs (t : Spanned) : List (List Char) := runsFrom t.isBorder 0 t.text

theorem flatten_runsFrom (border : Nat → Bool) (i : Nat) (s : List Char) :
    (runsFrom border i s).flatten = s := by
  induction s generalizing i with
  | nil => rfl
  | cons c s ih => rw [runsFrom, flatten_prepend, ih]

theorem flatten_runs (t : Spanned) : t.runs.flatten = t.text := flatten_runsFrom t.isBorder 0 t.text

end Spanned

end ClusterMatrix.Text

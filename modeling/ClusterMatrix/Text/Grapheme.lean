import ClusterMatrix.Text.Width

/-!
# Graphemes

A grapheme is a part of a text that is not cut: a character of some width with all that belongs to it. Only the
first grapheme of a text may have no width. The graphemes of a text give the text when they are joined.
-/

namespace ClusterMatrix.Text

structure Grapheme where
  text : List Char
  width : Nat
deriving DecidableEq, Repr

/-- A grapheme with more characters, which add `n` to its width. -/
def Grapheme.add (g : Grapheme) (s : List Char) (n : Nat) : Grapheme := ⟨g.text ++ s, g.width + n⟩

/-- The graphemes from `held` on, whose last sign is `last`. -/
def graphemesFrom (held : Grapheme) (last : Option Char) : List Char → List Grapheme
  | [] => [held]
  | c :: s =>
    if c = joiner then match s with
      | [] => [held.add [c] 0]
      | d :: s => graphemesFrom (held.add [c, d] 0) last s
    else if c = wideningMark then graphemesFrom (held.add [c] (widening last)) none s
    else if charWidth c = 0 then graphemesFrom (held.add [c] 0) last s
    else held :: graphemesFrom ⟨[c], charWidth c⟩ (some c) s

def graphemes : List Char → List Grapheme
  | [] => []
  | c :: s => graphemesFrom ⟨[c], charWidth c⟩ (if charWidth c = 0 then none else some c) s

theorem flatMap_graphemesFrom (held : Grapheme) (last : Option Char) (s : List Char) :
    (graphemesFrom held last s).flatMap Grapheme.text = held.text ++ s := by
  fun_induction graphemesFrom held last s <;> simp_all [Grapheme.add]

theorem flatMap_graphemes (s : List Char) : (graphemes s).flatMap Grapheme.text = s := by
  cases s with
  | nil => rfl
  | cons c s => rw [graphemes, flatMap_graphemesFrom, List.singleton_append]

/-- The graphemes that have room. A blank stands for a part of the first one that has not. -/
def takeWidth (room : Nat) : List Grapheme → List Char
  | [] => []
  | g :: gs =>
    if g.width ≤ room then g.text ++ takeWidth (room - g.width) gs
    else if room = 0 then [] else [' ']

/-- Why the start of a text cannot be told: its graphemes take no cell, or not so many. -/
inductive CropFault where
  | empty
  | narrow
deriving DecidableEq, Repr

/-- The start of a text that is wider than `total`. The graphemes of a text that begins with joiners may be narrower
than the text. -/
def crop (total : Nat) (s : List Char) : Except CropFault (List Char) :=
  let gs := graphemes s
  let whole := gs.foldr (fun g n ↦ g.width + n) 0
  if whole = 0 then .error .empty
  else if whole < total then .error .narrow
  else .ok (takeWidth total gs)

def blanks (n : Nat) : List Char := List.replicate n ' '

/-- A text brought to a width, by blanks behind it or by leaving out its end. -/
def setWidth (total : Nat) (s : List Char) : Except CropFault (List Char) :=
  if total = 0 then .ok []
  else if width s ≤ total then .ok (s ++ blanks (total - width s))
  else crop total s

end ClusterMatrix.Text

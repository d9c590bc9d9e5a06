import ClusterMatrix.Version.Basic

/-!
# Reading loosely written versions

A version is searched in a text: one component of 1 to 16 ASCII digits, behind a point perhaps a
second one, and behind another point perhaps a third. It begins at the front of the text or behind a
character that is no digit, and ends at the end or before such a character. Of all places the first
one counts, and at one place the reading with the longest components, the first component foremost.
-/

namespace ClusterMatrix.Version

def maxComponentDigits : Nat := 16

/-- The ways to read a component at the front, the longest one first: its value and what follows. -/
def components (s : List Char) : List (Nat × List Char) :=
  let longest := min (s.takeWhile Char.isDigit).length maxComponentDigits
  (List.range longest).reverse.map fun n ↦
    (Nat.ofDigitChars 10 (s.take (n + 1)) 0, s.drop (n + 1))

/-- The ways to read a further component behind a point; the last of them is to read none. -/
def furtherComponents (s : List Char) : List (Option Nat × List Char) :=
  let behindPoint := match s with
    | '.' :: r => (components r).map fun c ↦ (some c.1, c.2)
    | _ => []
  behindPoint ++ [(none, s)]

/-- A version may end before the given text. -/
def endsBefore : List Char → Bool
  | [] => true
  | c :: _ => !c.isDigit

/-- The versions that can be read at the front, in the order of preference. -/
def readings (s : List Char) : List Version :=
  (components s).flatMap fun major ↦
    (furtherComponents major.2).flatMap fun minor ↦
      ((furtherComponents minor.2).filter fun patch ↦ endsBefore patch.2).map fun patch ↦
        ⟨major.1, minor.1.getD 0, patch.1.getD 0⟩

/-- What follows each character that is no digit. -/
def behindSeparators : List Char → List (List Char)
  | [] => []
  | c :: r => if c.isDigit then behindSeparators r else r :: behindSeparators r

/-- The version found first in the text. -/
def coerce? (s : List Char) : Option Version :=
  (s :: behindSeparators s).findSome? fun t ↦ (readings t).head?

end ClusterMatrix.Version

import ClusterMatrix.Text.WidthRanges

/-!
# The width of a text

The number of cells that a text takes on a line of fixed-width cells: none for a control or combining
character, two for a wide one, and one for any other. A joiner hides the character behind it, and a mark behind
some narrow signs asks for their wide form, so a text may be narrower or wider than its parts.
-/

namespace ClusterMatrix.Text

/-- A visible ASCII character or the plain blank. -/
def isPlain (c : Char) : Bool := 0x20 ≤ c.toNat && c.toNat < 0x7F

def charWidth (c : Char) : Nat :=
  if isPlain c then 1
  else if zeroWidthRanges.contains c.toNat then 0 else if wideRanges.contains c.toNat then 2 else 1

/-- Joins the character behind it to those in front. -/
def joiner : Char := '\u200D'

/-- Asks for the wide form of the sign in front. -/
def wideningMark : Char := '\uFE0F'

/-- A sign has a wide form. -/
def widens (c : Char) : Bool := wideningRanges.contains c.toNat

/-- What a widening mark adds behind a sign. -/
def widening (last : Option Char) : Nat := if last.any widens then 1 else 0

/-- The width of a text behind the sign `last`, to which a widening mark would belong. -/
def widthFrom (last : Option Char) : List Char → Nat
  | [] => 0
  | c :: s =>
    if c = joiner then match s with
      | [] => 0
      | _ :: s => widthFrom last s
    else if c = wideningMark then widening last + widthFrom none s
    else if charWidth c = 0 then widthFrom last s
    else charWidth c + widthFrom (some c) s

def width (s : List Char) : Nat := widthFrom none s

theorem charWidth_of_isPlain {c : Char} (h : isPlain c = true) : charWidth c = 1 := by
  simp [charWidth, h]

theorem ne_of_isPlain {c : Char} (h : isPlain c = true) : c ≠ joiner ∧ c ≠ wideningMark := by
  constructor <;> rintro rfl <;> exact absurd h (by decide)

@[simp] theorem width_nil : width [] = 0 := rfl

theorem widthFrom_of_isPlain {s : List Char} (h : ∀ c ∈ s, isPlain c = true) (last : Option Char) :
    widthFrom last s = s.length := by
  induction s generalizing last with
  | nil => rfl
  | cons c s ih =>
    rw [List.forall_mem_cons] at h
    have hc := ne_of_isPlain h.1
    unfold widthFrom
    rw [if_neg hc.1, if_neg hc.2, charWidth_of_isPlain h.1, if_neg (by decide), ih h.2, List.length_cons,
      Nat.add_comm]

/-- A text of plain characters takes a cell for each of them. -/
theorem width_of_isPlain {s : List Char} (h : ∀ c ∈ s, isPlain c = true) : width s = s.length :=
  widthFrom_of_isPlain h none

end ClusterMatrix.Text

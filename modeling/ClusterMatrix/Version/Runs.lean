import ClusterMatrix.Version.Basic

/-!
# Versions by runs of digits

The same versions found without search. The text is cut into its maximal runs of ASCII digits, each
with what stands between it and the run before. The first run of at most 16 digits is the major
component; the run behind it is the minor one if a single point lies between and it is short enough
too, and so for the patch.
-/

namespace ClusterMatrix.Version

/-- A maximal run of digits, with the separators in front of it. -/
structure Run where
  between : List Char
  digits : List Char
deriving DecidableEq, Repr

/-- Puts one character in front of the runs of a text. -/
def consRun (c : Char) : List Run → List Run
  | [] => if c.isDigit then [⟨[], [c]⟩] else []
  | r :: rs =>
    if c.isDigit then
      if r.between = [] then ⟨[], c :: r.digits⟩ :: rs else ⟨[], [c]⟩ :: r :: rs
    else ⟨c :: r.between, r.digits⟩ :: rs

/-- The maximal runs of digits of a text, in order. -/
def runs (s : List Char) : List Run := s.foldr consRun []

def Run.isShort (r : Run) : Bool := r.digits.length ≤ 16

def Run.value (r : Run) : Nat := Nat.ofDigitChars 10 r.digits 0

/-- The value of a run that continues a version, and the runs behind it. -/
def continued : List Run → Option (Nat × List Run)
  | [] => none
  | r :: rs => if r.between = ['.'] ∧ r.isShort then some (r.value, rs) else none

/-- The version that the runs of a text spell. -/
def ofRuns? : List Run → Option Version
  | [] => none
  | r :: rs =>
    if r.isShort then
      match continued rs with
      | none => some ⟨r.value, 0, 0⟩
      | some (minor, rs) => match continued rs with
        | none => some ⟨r.value, minor, 0⟩
        | some (patch, _) => some ⟨r.value, minor, patch⟩
    else ofRuns? rs

end ClusterMatrix.Version

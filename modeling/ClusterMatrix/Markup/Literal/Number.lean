import ClusterMatrix.Text.Numeral

/-!
# Numbers in literals

An integer in base ten or behind a mark of its base, a numeral with a point or an exponent, or an imaginary
number, which ends in a `j`. Only zero may be written in base ten with a zero in front.
-/

namespace ClusterMatrix.Markup.Literal

inductive Number where
  | integer (n : Nat)
  | float
  | imaginary
deriving DecidableEq, Repr

/-- A character that a word may hold. -/
def isWordChar (c : Char) : Bool := c.isAlphanum || c = '_' || 0x80 ≤ c.toNat

/-- No word goes on at the front. -/
def endsWord (s : List Char) : Bool := !s.head?.any isWordChar

/-- The base that a letter behind a zero marks. -/
def baseOf (mark : Char) : Nat :=
  if mark = 'x' ∨ mark = 'X' then 16 else if mark = 'o' ∨ mark = 'O' then 8 else 2

/-- The value of a text of digits, with underscores between them. -/
def valueIn (base : Nat) (s : List Char) : Nat :=
  s.foldl (fun n c ↦ ((Text.hexValue? c).map (base * n + ·)).getD n) 0

/-- The integer that is written in base ten. -/
def decimalInteger? (s : List Char) : Option Number :=
  let digits := s.filter Char.isDigit
  if digits.all (· = '0') then some (.integer 0)
  else if digits.head? = some '0' ∨ Text.maxDigits < digits.length then none
  else some (.integer (valueIn 10 digits))

/-- A number in base ten, where `r` stands behind its digits, its point and its exponent. -/
def decimal? (s r : List Char) : Option (Number × List Char) :=
  let written := s.take (s.length - r.length)
  match r with
  | 'j' :: r => some (.imaginary, r)
  | 'J' :: r => some (.imaginary, r)
  | r =>
    if written.all fun c ↦ c.isDigit || c = '_' then (decimalInteger? written).map (·, r)
    else some (.float, r)

/-- A number at the front, and what stands behind it. -/
def number? (s : List Char) : Option (Number × List Char) :=
  let found : Option (Number × List Char) := match Text.afterMarked? s with
    | some r =>
      let digits := (s.take (s.length - r.length)).drop 2
      some (.integer (valueIn (baseOf (s.getD 1 '0')) digits), r)
    | none => (Text.afterDecimal? s).bind (decimal? s)
  found.filter fun p ↦ endsWord p.2

/-- The least integer beyond the range of binary64. -/
def binary64Bound : Nat := Nat.pow 2 1024 - Nat.pow 2 970

/-- An imaginary number can be added to the number. -/
def Number.isReal : Number → Bool
  | .integer n => n < binary64Bound
  | .float => true
  | .imaginary => false

end ClusterMatrix.Markup.Literal

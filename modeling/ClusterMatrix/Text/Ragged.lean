import ClusterMatrix.Text.Quoted

/-!
# Ragged texts

A character beyond 16 bits is a pair of 16-bit units. A ragged text holds halves of such pairs that stand alone,
so it is no string; it is known by its code points, and no text with all its pairs whole is ragged.
-/

namespace ClusterMatrix.Text

def isHighUnit (n : Nat) : Bool := 0xD800 ≤ n && n < 0xDC00

def isLowUnit (n : Nat) : Bool := 0xDC00 ≤ n && n < 0xE000

def isHalf (n : Nat) : Bool := isHighUnit n || isLowUnit n

/-- The character of a pair of units. -/
def ofPair (high low : Nat) : Char := Char.ofNat (0x10000 + (high - 0xD800) * 0x400 + (low - 0xDC00))

/-- A high half stands in front of a low one. -/
def hasPair : List Nat → Bool
  | n :: m :: ns => isHighUnit n && isLowUnit m || hasPair (m :: ns)
  | _ => false

/-- The code points are those of a ragged text. -/
def areRagged (codes : List Nat) : Bool :=
  codes.any isHalf && codes.all (fun n ↦ isHalf n || n.isValidChar) && !hasPair codes

/-- How a code point is shown: a replacement character stands for a half. -/
def shownCode (n : Nat) : Char := if isHalf n then '\uFFFD' else Char.ofNat n

structure Ragged where
  codes : List Nat
  areRagged : areRagged codes = true
deriving DecidableEq, Repr

namespace Ragged

/-- The characters of a ragged text, where a replacement character stands for each half. -/
def shown (r : Ragged) : List Char := r.codes.map shownCode

def quotedCode (q : Char) (n : Nat) : List Char :=
  if isHalf n then '\\' :: 'u' :: hexDigits 4 n else quotedChar q (Char.ofNat n)

/-- A ragged text in a message, where the halves are written by their numbers. -/
def quoted (r : Ragged) : List Char :=
  quoteFor r.shown :: r.codes.flatMap (quotedCode (quoteFor r.shown)) ++ [quoteFor r.shown]

end Ragged

end ClusterMatrix.Text

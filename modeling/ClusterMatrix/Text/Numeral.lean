import ClusterMatrix.Text.Digit
import ClusterMatrix.Text.Hex
import ClusterMatrix.Text.Split

/-!
# Numerals

What stands behind a numeral at the front of a text. Single underscores may stand between the digits, either
side of the point of a decimal numeral may be empty, and an exponent may follow. An integer may have another
base than ten behind a mark of its own.
-/

namespace ClusterMatrix.Text

/-- Drops the digits that go on with a numeral. -/
def dropDigits (digit : Char → Bool) : List Char → List Char
  | [] => []
  | [c] => if digit c then [] else [c]
  | c :: d :: s =>
    if digit c then dropDigits digit (d :: s)
    else if c = '_' ∧ digit d then dropDigits digit s
    else c :: d :: s

def afterDigits? (digit : Char → Bool) : List Char → Option (List Char)
  | [] => none
  | c :: s => if digit c then some (dropDigits digit s) else none

/-- Drops a sign. -/
def unsigned : List Char → List Char
  | [] => []
  | c :: s => if c = '-' ∨ c = '+' then s else c :: s

/-- Drops an exponent, if one follows. -/
def dropExponent : List Char → List Char
  | [] => []
  | c :: s =>
    if c = 'e' ∨ c = 'E' then (afterDigits? Char.isDigit (unsigned s)).getD (c :: s) else c :: s

def afterDecimal? (s : List Char) : Option (List Char) :=
  match afterDigits? Char.isDigit s with
  | some ('.' :: r) => some (dropExponent ((afterDigits? Char.isDigit r).getD r))
  | some r => some (dropExponent r)
  | none => match s with
    | '.' :: r => (afterDigits? Char.isDigit r).map dropExponent
    | _ => none

/-- What stands behind a word, which is given in lower case. -/
def afterWord? : (word s : List Char) → Option (List Char)
  | [], s => some s
  | _ :: _, [] => none
  | w :: ws, c :: s => if c.toLower = w then afterWord? ws s else none

/-- What stands behind a number: a decimal numeral, an infinity or no number, perhaps with a sign. -/
def afterNumber? (s : List Char) : Option (List Char) :=
  let r := unsigned s
  (afterDecimal? r).or ((afterWord? "infinity".toList r).or
    ((afterWord? "inf".toList r).or (afterWord? "nan".toList r)))

/-- The blank and the control characters that move to another place. -/
def isSpace (c : Char) : Bool := c = ' ' || ('\t' ≤ c && c ≤ '\r')

/-- Drops the spaces at both ends. -/
def stripSpaces (s : List Char) : List Char :=
  ((s.dropWhile isSpace).reverse.dropWhile isSpace).reverse

def isImaginaryUnit (s : List Char) : Bool := s = ['j'] || s = ['J']

/-- The text is a real, imaginary or complex number. -/
def isComplex (s : List Char) : Bool :=
  let s := stripSpaces (plainNumeral s)
  match afterNumber? s with
  | none => isImaginaryUnit (unsigned s)
  | some [] => true
  | some (c :: r) =>
    isImaginaryUnit (c :: r) || ((c = '-' || c = '+') &&
      match afterNumber? (c :: r) with
      | some r => isImaginaryUnit r
      | none => isImaginaryUnit r)

/-- An integer that is written in base ten has at most so many digits. -/
def maxDigits : Nat := 4300

/-- The text is an integer in base ten, perhaps with a sign. -/
def isInteger (s : List Char) : Bool :=
  let s := unsigned (stripSpaces (plainNumeral s))
  afterDigits? Char.isDigit s = some [] && s.countP Char.isDigit ≤ maxDigits

/-- The value of a text that is an integer in base ten. -/
def integer? (s : List Char) : Option Int :=
  if isInteger s then
    let s := stripSpaces (plainNumeral s)
    let n : Nat := decimalValue (s.filter Char.isDigit)
    some (if s.head? = some '-' then -n else n)
  else none

/-- The digits of the base that a letter behind a zero marks. -/
def markedDigits? (mark : Char) : Option (Char → Bool) :=
  if mark = 'x' ∨ mark = 'X' then some isHex
  else if mark = 'o' ∨ mark = 'O' then some fun c ↦ '0' ≤ c && c ≤ '7'
  else if mark = 'b' ∨ mark = 'B' then some fun c ↦ c = '0' || c = '1'
  else none

/-- What stands behind an integer with a mark of its base, where an underscore may follow the mark. -/
def afterMarked? : List Char → Option (List Char)
  | '0' :: mark :: s => match markedDigits? mark, s with
    | some digit, '_' :: r => afterDigits? digit r
    | some digit, s => afterDigits? digit s
    | none, _ => none
  | _ => none

/-- The text is an integer with a mark of its base, perhaps with a sign. -/
def isMarkedInteger (s : List Char) : Bool :=
  afterMarked? (unsigned (stripSpaces (plainNumeral s))) = some []

/-- The text has two or three parts between colons, each of them empty or an integer. -/
def isSlice (s : List Char) : Bool :=
  let parts := splitOn ':' s
  (parts.length = 2 || parts.length = 3) && parts.all fun p ↦ p.isEmpty || isInteger p

end ClusterMatrix.Text

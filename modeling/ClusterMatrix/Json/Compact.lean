import ClusterMatrix.Decimal.Layout
import ClusterMatrix.Json.Basic
import ClusterMatrix.Text.Hex

/-!
# One-line JSON

The text of a value on one line, in the printable ASCII characters alone: all others are escaped,
those beyond 16 bits as a pair of units. A comma or colon is followed by a blank.
-/

namespace ClusterMatrix.Json

/-- The letters of the short escapes. -/
def shortEscape? : Char → Option Char
  | '"' => some '"'
  | '\\' => some '\\'
  | '\n' => some 'n'
  | '\r' => some 'r'
  | '\t' => some 't'
  | '\x08' => some 'b'
  | '\x0c' => some 'f'
  | _ => none

/-- The 16-bit units of one character. -/
def unitsOf (c : Char) : List Nat :=
  if c.toNat < 0x10000 then [c.toNat]
  else [0xD800 + (c.toNat - 0x10000) / 0x400, 0xDC00 + (c.toNat - 0x10000) % 0x400]

def unitEscape (n : Nat) : List Char := '\\' :: 'u' :: Text.hexDigits 4 n

def isPlain (c : Char) : Bool := ' ' ≤ c && c ≤ '~'

def compactChar (c : Char) : List Char :=
  match shortEscape? c with
  | some l => ['\\', l]
  | none => if isPlain c then [c] else (unitsOf c).flatMap unitEscape

/-- The escapes of a half that stands alone, and of characters. -/
def compactCode (n : Nat) : List Char :=
  if Text.isHalf n then unitEscape n else compactChar (Char.ofNat n)

def compactText (t : Text) : List Char := '"' :: t.codes.flatMap compactCode ++ ['"']

/-- How JSON texts write what is no finite number. -/
def floatWords : Decimal.Words := ⟨"NaN", "Infinity"⟩

def intText (n : Int) : List Char :=
  if n < 0 then '-' :: Nat.toDigits 10 n.natAbs else Nat.toDigits 10 n.natAbs

def wordText : Bool → List Char
  | true => "true".toList
  | false => "false".toList

mutual

def compact : Json → List Char
  | .null => "null".toList
  | .bool b => wordText b
  | .int n => intText n
  | .float x => Decimal.floatText floatWords x
  | .str s => compactText s
  | .ragged r => compactText (.ragged r)
  | .arr [] => ['[', ']']
  | .arr (v :: vs) => '[' :: compact v ++ compactItems vs
  | .obj [] => ['{', '}']
  | .obj ((k, v) :: ms) =>
    '{' :: compactText k ++ ':' :: ' ' :: compact v ++ compactMembers ms

/-- The items behind the first one, and the closing bracket. -/
def compactItems : List Json → List Char
  | [] => [']']
  | v :: vs => ',' :: ' ' :: compact v ++ compactItems vs

/-- The members behind the first one, and the closing brace. -/
def compactMembers : List (Text × Json) → List Char
  | [] => ['}']
  | (k, v) :: ms =>
    ',' :: ' ' :: compactText k ++ ':' :: ' ' :: compact v ++ compactMembers ms

end

end ClusterMatrix.Json

import ClusterMatrix.Json.Compact

/-!
# Indented JSON

The text of a value over several lines: each item or member on a line of its own, two blanks deeper
than what holds it. Only the characters that the standard forbids in a string are escaped. A half of a character
stands for itself, so what is written are code points.
-/

namespace ClusterMatrix.Json

open Text (codesOf)

def indentedChar (c : Char) : List Char :=
  match shortEscape? c with
  | some l => ['\\', l]
  | none => if c.toNat < 0x20 then unitEscape c.toNat else [c]

def indentedCode (n : Nat) : List Nat :=
  if Text.isHalf n then [n] else codesOf (indentedChar (Char.ofNat n))

def indentedText (t : Text) : List Nat := codesOf ['"'] ++ t.codes.flatMap indentedCode ++ codesOf ['"']

/-- A new line at the given depth. -/
def newLine (depth : Nat) : List Char := '\n' :: List.replicate (2 * depth) ' '

mutual

def indented (depth : Nat) : Json → List Nat
  | .null => codesOf "null".toList
  | .bool b => codesOf (wordText b)
  | .int n => codesOf (intText n)
  | .float x => codesOf (Decimal.floatText floatWords x)
  | .str s => indentedText s
  | .ragged r => indentedText (.ragged r)
  | .arr [] => codesOf ['[', ']']
  | .arr (v :: vs) =>
    codesOf ('[' :: newLine (depth + 1)) ++ indented (depth + 1) v ++ indentedItems depth vs
  | .obj [] => codesOf ['{', '}']
  | .obj ((k, v) :: ms) =>
    codesOf ('{' :: newLine (depth + 1)) ++ indentedText k ++ codesOf [':', ' '] ++
      indented (depth + 1) v ++ indentedMembers depth ms

/-- The items behind the first one, and the closing bracket. -/
def indentedItems (depth : Nat) : List Json → List Nat
  | [] => codesOf (newLine depth ++ [']'])
  | v :: vs =>
    codesOf (',' :: newLine (depth + 1)) ++ indented (depth + 1) v ++ indentedItems depth vs

/-- The members behind the first one, and the closing brace. -/
def indentedMembers (depth : Nat) : List (Text × Json) → List Nat
  | [] => codesOf (newLine depth ++ ['}'])
  | (k, v) :: ms =>
    codesOf (',' :: newLine (depth + 1)) ++ indentedText k ++ codesOf [':', ' '] ++
      indented (depth + 1) v ++ indentedMembers depth ms

end

end ClusterMatrix.Json

import ClusterMatrix.Charset.Basic
import ClusterMatrix.Text.Hex
import ClusterMatrix.Text.Names

/-!
# Character sets with backslashes

Latin-1 where a backslash begins the escape of a character by its number, and perhaps other escapes. What begins
such an escape and does not end it stands for no character.
-/

namespace ClusterMatrix.Charset

namespace Escaped

def hexDigit? (b : UInt8) : Option Nat := Text.hexValue? (Char.ofNat b.toNat)

/-- The value of `count` hexadecimal digits at the front, or the number of digits if there are fewer. -/
def number (count : Nat) (bs : List UInt8) : Nat ⊕ Nat :=
  let digits := (bs.take count).map hexDigit?
  let known := digits.takeWhile Option.isSome
  if known.length = count then .inl (known.foldl (fun n d ↦ 16 * n + d.getD 0) 0) else .inr known.length

/-- The step at an escape by number, which has `count` digits behind its letter. -/
def numberStep (count : Nat) (bs : List UInt8) : Step :=
  match number count bs with
  | .inl n => if n < 0x110000 then .chars [character? n] (count + 2) else .bad (count + 2)
  | .inr known => .bad (known + 2)

def rawStep (a : UInt8) (r : List UInt8) : Step :=
  match a, r with
  | 0x5C, 0x75 :: r => numberStep 4 r
  | 0x5C, 0x55 :: r => numberStep 8 r
  | 0x5C, b :: _ => .chars [some '\\', some (Char.ofNat b.toNat)] 2
  | a, _ => .one (Char.ofNat a.toNat)

/-- The characters that a backslash and another byte stand for. -/
def letters : List (UInt8 × Char) :=
  [(0x5C, '\\'), (0x27, '\x27'), (0x22, '"'), (0x62, '\x08'), (0x66, '\x0c'), (0x74, '\t'), (0x6E, '\n'),
    (0x72, '\r'), (0x76, '\x0b'), (0x61, '\x07')]

def isOctal (b : UInt8) : Bool := 0x30 ≤ b && b ≤ 0x37

/-- The step at an escape by name, whose bytes behind the letter are given. -/
def nameStep : List UInt8 → Step
  | 0x7B :: r =>
    let name := r.takeWhile (· ≠ 0x7D)
    if r.length = name.length ∨ name = [] then .bad (name.length + 3)
    else match Text.characterNamed? (name.map fun b ↦ Char.ofNat b.toNat) with
      | some c => .chars [some c] (name.length + 4)
      | none => .bad (name.length + 4)
  | _ => .bad 2

def step (a : UInt8) (r : List UInt8) : Step :=
  if a ≠ 0x5C then .one (Char.ofNat a.toNat)
  else match r with
    | [] => .bad 1
    | 0x0A :: _ => .chars [] 2
    | 0x78 :: r => numberStep 2 r
    | 0x75 :: r => numberStep 4 r
    | 0x55 :: r => numberStep 8 r
    | 0x4E :: r => nameStep r
    | b :: r =>
      if isOctal b then
        let digits := ((b :: r).take 3).takeWhile isOctal
        .chars [some (Char.ofNat (digits.foldl (fun n d ↦ 8 * n + (d.toNat - 0x30)) 0))] (digits.length + 1)
      else match letters.lookup b with
        | some c => .chars [some c] 2
        | none => .chars [some '\\', some (Char.ofNat b.toNat)] 2

end Escaped

/-- Escapes by number in four or eight digits alone. -/
def rawEscaped : Charset := ofStep Escaped.rawStep

/-- All escapes. -/
def escaped : Charset := ofStep Escaped.step

end ClusterMatrix.Charset

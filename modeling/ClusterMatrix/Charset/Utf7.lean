import ClusterMatrix.Charset.Basic

/-!
# UTF-7

ASCII characters stand for themselves, and between a plus sign and the first byte that is no digit of base 64
stand the 16-bit units of other characters, six bits in a digit.
-/

namespace ClusterMatrix.Charset

namespace Utf7

def digit? (b : UInt8) : Option Nat :=
  if 0x41 ≤ b ∧ b ≤ 0x5A then some (b.toNat - 0x41)
  else if 0x61 ≤ b ∧ b ≤ 0x7A then some (b.toNat - 0x61 + 26)
  else if 0x30 ≤ b ∧ b ≤ 0x39 then some (b.toNat - 0x30 + 52)
  else if b = 0x2B then some 62
  else if b = 0x2F then some 63
  else none

/-- The bits that wait for more, as a number and their count, and a high unit that waits for a low one. -/
structure Digits where
  value : Nat
  count : Nat
  high : Option Nat
deriving DecidableEq, Repr

/-- The state behind a unit, and the characters that are known by it. A unit without its partner is none. -/
def Digits.unit (d : Digits) (n : Nat) : Digits × Read :=
  let isHigh := 0xD800 ≤ n && n < 0xDC00
  let isLow := 0xDC00 ≤ n && n < 0xE000
  match d.high, isLow with
  | some h, true =>
    ({ d with high := none }, [some (Char.ofNat (0x10000 + (h - 0xD800) * 0x400 + (n - 0xDC00)))])
  | some _, false =>
    if isHigh then ({ d with high := some n }, [none]) else ({ d with high := none }, [none, character? n])
  | none, _ => if isHigh then ({ d with high := some n }, []) else (d, [character? n])

/-- The state behind one more digit. -/
def Digits.push (d : Digits) (n : Nat) : Digits × Read :=
  let value := d.value * 64 + n
  let count := d.count + 6
  if 16 ≤ count then
    let rest := Nat.pow 2 (count - 16)
    Digits.unit ⟨value % rest, count - 16, d.high⟩ (value / rest)
  else (⟨value, count, d.high⟩, [])

/-- The bits that are left over are no padding. -/
def Digits.isBroken (d : Digits) : Bool := 6 ≤ d.count || d.value ≠ 0

/-- What stands for a high unit without its partner in front of an ASCII character. -/
def Digits.lone (d : Digits) (b : UInt8) : Read := if d.high.isSome && b < 0x80 && b ≠ 0x2B then [none] else []

mutual

/-- Reads characters that stand for themselves. -/
def plain : List UInt8 → Read
  | [] => []
  | b :: r =>
    if b = 0x2B then match r with
      | [] => []
      | c :: r =>
        if c = 0x2D then some '+' :: plain r
        else match digit? c with
          | none => none :: plain r
          | some n =>
            let (d, cs) := Digits.push ⟨0, 0, none⟩ n
            cs ++ units d r
    else if b < 0x80 then some (asciiOf b) :: plain r
    else none :: plain r

/-- Reads digits. -/
def units (d : Digits) : List UInt8 → Read
  | [] => if d.high.isSome || d.isBroken then [none] else []
  | b :: r => match digit? b with
    | some n =>
      let (d, cs) := d.push n
      cs ++ units d r
    | none =>
      if d.isBroken then none :: plain r
      else if b = 0x2D then d.lone b ++ plain r
      else if b < 0x80 then d.lone b ++ some (asciiOf b) :: plain r
      else none :: plain r

end

end Utf7

def utf7 : Charset := ⟨Utf7.plain⟩

end ClusterMatrix.Charset

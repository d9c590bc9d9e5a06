import ClusterMatrix.Charset.Basic
import ClusterMatrix.Charset.Strips
import ClusterMatrix.Charset.Tables.Jisx0208
import ClusterMatrix.Charset.Tables.Jisx0212
import ClusterMatrix.Charset.Tables.Jisx0213
import ClusterMatrix.Charset.Tables.Windows932

/-!
# Japanese character sets

The sets that write the tables of JIS X 0208, 0212 and 0213 in two or three bytes: EUC, whose bytes have the
high bit, and Shift_JIS, which leaves room for the katakana of one byte.
-/

namespace ClusterMatrix.Charset

/-- The katakana of half width. -/
def katakana? (b : UInt8) : Option Char :=
  if 0xA1 ≤ b ∧ b ≤ 0xDF then some (Char.ofNat (0xFEC0 + b.toNat)) else none

/-- The editions of JIS X 0213. -/
inductive Edition where
  | of2000
  | of2004
deriving DecidableEq, Repr

/-- A cell of the first plane of JIS X 0213. Some cells hold no character in the edition of 2000. -/
def firstPlane? (e : Edition) (n : Nat) : Option Read :=
  if e = .of2000 ∧ n ∈ jisx0213Late then some [none]
  else match (jisx0208.find? n).or (jisx0213Added.find? n) with
    | some c => some [some c]
    | none => (jisx0213Pairs.lookup n).map fun pair ↦ pair.toList.map some

/-- A cell of the second plane of JIS X 0213. One of them has another form in the edition of 2000. -/
def secondPlane? (e : Edition) (n : Nat) : Option Char :=
  if e = .of2000 ∧ n = 0x7D3B then some '鬝' else jisx0213Second.find? n

/-- A step of EUC, where `two?` finds the characters of two bytes and `three?` those behind a mark, by their
cells. -/
def eucStep (two? : Nat → Option Read) (three? : Nat → Option Char) (a : UInt8) (r : List UInt8) :
    Step :=
  if a < 0x80 then .one (asciiOf a)
  else match a, r with
    | _, [] => .short
    | 0x8E, b :: _ => match katakana? b with
      | some c => .chars [some c] 2
      | none => .bad 1
    | 0x8F, [_] => .short
    | 0x8F, b :: c :: _ => match three? (lowerCell b c) with
      | some ch => .chars [some ch] 3
      | none => .bad 1
    | a, b :: _ => match two? (lowerCell a b) with
      | some cs => .chars cs 2
      | none => .bad 1

def eucJp : Charset := ofStep (eucStep (fun n ↦ (jisx0208.find? n).map ([some ·])) jisx0212.find?)

/-- EUC with JIS X 0213. The tilde is a wide one there. -/
def eucJisx0213 (e : Edition) : Charset :=
  ofStep (eucStep (fun n ↦ if n = 0x2232 then some [some '～'] else firstPlane? e n)
    fun n ↦ (secondPlane? e n).or (jisx0212.find? n))

/-- The row, from zero on, and the column of two bytes of Shift_JIS. -/
def shiftedCell? (a b : UInt8) : Option (Nat × Nat) :=
  if ((0x81 ≤ a && a ≤ 0x9F) || (0xE0 ≤ a && a ≤ 0xFC)) &&
      ((0x40 ≤ b && b ≤ 0x7E) || (0x80 ≤ b && b ≤ 0xFC)) then
    let row := 2 * (a.toNat - if a < 0xE0 then 0x81 else 0xC1)
    let column := b.toNat - if b < 0x80 then 0x40 else 0x41
    some (if column < 94 then (row, column + 0x21) else (row + 1, column - 94 + 0x21))
  else none

/-- A leading byte of two. -/
def isShiftedLead (a : UInt8) : Bool := (0x81 ≤ a && a ≤ 0x9F) || (0xE0 ≤ a && a ≤ 0xFC)

/-- A step of Shift_JIS, where `one?` finds the character of one byte, and `two?` those of a row and a column. -/
def shiftedStep (one? : UInt8 → Option Char) (two? : Nat → Nat → Option Read) (a : UInt8)
    (r : List UInt8) : Step :=
  match one? a with
  | some c => .one c
  | none =>
    if !isShiftedLead a then .bad 1
    else match r with
      | [] => .short
      | b :: _ => match (shiftedCell? a b).bind fun p ↦ two? p.1 p.2 with
        | some cs => .chars cs 2
        | none => .bad 1

def shiftJis : Charset :=
  ofStep (shiftedStep (fun a ↦ if a < 0x80 then some (asciiOf a) else katakana? a)
    fun row column ↦ (jisx0208.find? ((row + 0x21) * 256 + column)).map ([some ·]))

/-- The Latin letters of JIS X 0201, where a yen sign and an overline stand for two characters of ASCII. -/
def jisLatin? (a : UInt8) : Option Char :=
  if a = 0x5C then some '¥'
  else if a = 0x7E then some '‾'
  else if a < 0x80 then some (asciiOf a)
  else none

/-- The row of the second plane that stands in a row behind the first plane. -/
def secondPlaneRow (row : Nat) : Nat :=
  if 0x67 ≤ row then row + 0x07 else if 0x63 ≤ row ∨ row = 0x5F then row - 0x37 else row - 0x3D

/-- Shift_JIS with JIS X 0213. Its yen sign leaves the backslash to two bytes. -/
def shiftJisx0213 (e : Edition) : Charset :=
  ofStep (shiftedStep (fun a ↦ (jisLatin? a).or (katakana? a)) fun row column ↦
    if row = 0 ∧ column = 0x40 then some [some '\\']
    else if row < 94 then firstPlane? e ((row + 0x21) * 256 + column)
    else (secondPlane? e (secondPlaneRow row * 256 + column)).map ([some ·]))

/-- The private characters of code page 932 that take one byte. -/
def windows932Single? (a : UInt8) : Option Char :=
  if a ≤ 0x80 then some (Char.ofNat a.toNat)
  else if a = 0xA0 then some '\uF8F0'
  else if 0xFD ≤ a then some (Char.ofNat (0xF8F1 + (a.toNat - 0xFD)))
  else katakana? a

/-- The characters of two bytes of code page 932. -/
def windows932Pair? (a b : UInt8) : Option Char :=
  match windows932.find? (cell a b), shiftedCell? a b with
  | some c, _ => some c
  | none, none => none
  | none, some (row, column) =>
    if 0xF0 ≤ a ∧ a ≤ 0xF9 then
      some (Char.ofNat (0xE000 + 188 * (a.toNat - 0xF0) + (b.toNat - if b < 0x80 then 0x40 else 0x41)))
    else if a ≤ 0xEA then jisx0208.find? ((row + 0x21) * 256 + column)
    else none

def codePage932 : Charset :=
  ofStep fun a r ↦ match windows932Single? a, r with
    | some c, _ => .one c
    | none, [] => .short
    | none, b :: _ => match windows932Pair? a b with
      | some c => .chars [some c] 2
      | none => .bad 1

end ClusterMatrix.Charset

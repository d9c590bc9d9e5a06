import ClusterMatrix.Charset.Japanese
import ClusterMatrix.Charset.Tables.Gb2312
import ClusterMatrix.Charset.Tables.Ksx1001

/-!
# Character sets with escape sequences

An escape sequence designates one of several tables, and the bytes behind it are read in that table. Some sets
have a second table, to which and from which control characters shift, or a third one for single characters.
-/

namespace ClusterMatrix.Charset

namespace Iso2022

/-- A table by the last letter of its escape sequence; another bit tells that it takes two bytes. -/
structure Mark where
  letter : UInt8
  double : Bool
deriving DecidableEq, Repr

def asciiMark : Mark := ⟨0x42, false⟩

/-- A table that may be designated, with the characters of its one or two bytes. -/
structure Table where
  mark : Mark
  find? : UInt8 → UInt8 → Option Read

/-- What a set of this kind can do. -/
structure Variant where
  tables : List Table
  /-- Control characters shift to the second table and back. -/
  shifts : Bool
  /-- Single characters of a third table may come between. -/
  third : Bool
  /-- The sequence of JIS X 0208 may begin with one of a revision. -/
  revised : Bool

def oneOf (c : Option Char) : Option Read := c.map ([some ·])

/-- A table of two bytes. -/
def double (letter : Char) (find? : Nat → Option Read) : Table :=
  ⟨⟨UInt8.ofNat letter.toNat, true⟩, fun a b ↦ find? (cell a b)⟩

/-- A table of one byte. -/
def single (letter : Char) (find? : UInt8 → Option Char) : Table :=
  ⟨⟨UInt8.ofNat letter.toNat, false⟩, fun a _ ↦ oneOf (find? a)⟩

def jis0208 : Table := double 'B' fun n ↦ oneOf (jisx0208.find? n)

/-- The first edition of the table, which is read like the later one. -/
def jis0208Old : Table := double '@' fun n ↦ oneOf (jisx0208.find? n)

def jis0212 : Table := double 'D' fun n ↦ oneOf (jisx0212.find? n)

def ks1001 : Table := double 'C' fun n ↦ oneOf (ksx1001.find? n)

def gb : Table := double 'A' fun n ↦ oneOf (gb2312.find? n)

/-- The Latin letters of JIS X 0201. -/
def jisLatin : Table := single 'J' jisLatin?

def jisKatakana : Table := single 'I' fun a ↦ katakana? (a + 0x80)

def jis0213First (letter : Char) (e : Edition) : Table := double letter (firstPlane? e)

/-- The second plane, which is always that of the later edition. -/
def jis0213Second : Table := double 'P' fun n ↦ oneOf (secondPlane? .of2004 n)

/-- The upper half of Latin-1, which only the third table may be. -/
def latinMark : Mark := ⟨0x41, false⟩

/-- The Greek upper half of ISO 8859-7, which only the third table may be. -/
def greekMark : Mark := ⟨0x46, false⟩

/-- The Greek characters by a byte with the high bit. -/
def greek? (b : UInt8) : Option Char :=
  let n := b.toNat
  if n < 0xA0 then some (Char.ofNat n)
  else if n < 0xC0 ∧ Nat.testBit 0x288F3BC9 (n - 0xA0) then some (Char.ofNat n)
  else if 0xB4 ≤ n ∧ n ≤ 0xFE ∧ (0xD4 ≤ n ∨ Nat.testBit 0xBFFFFD77 (n - 0xB4)) then some (Char.ofNat (0x2D0 + n))
  else if n = 0xA1 then some '‘'
  else if n = 0xA2 then some '’'
  else if n = 0xAF then some '―'
  else none

/-- The tables that are designated, and whether the second one is shifted to. Behind an escape character that begins
no sequence, all up to a letter stands for itself. -/
structure State where
  first : Mark
  second : Mark
  third : Mark
  shifted : Bool
  verbatim : Bool
deriving DecidableEq, Repr

def State.start : State := ⟨asciiMark, asciiMark, asciiMark, false, false⟩

/-- A byte that ends an escape sequence. -/
def isFinal (b : UInt8) : Bool := (0x41 ≤ b && b ≤ 0x5A) || b = 0x40

/-- The length of an escape sequence from its escape character on, where `n` bytes of it stand in front. There is
none if it does not end, and nothing is known if there are too few bytes. -/
def sequenceLength? (revised : Bool) (n : Nat) : List UInt8 → Option (Option Nat)
  | [] => if n < 16 then none else some none
  | b :: r =>
    if 16 ≤ n then some none
    else if isFinal b then some (some (n + 1))
    else match r with
      | c :: d :: e :: r =>
        if revised ∧ b = 0x26 ∧ c = 0x40 then
          sequenceLength? revised (n + 3) (e :: r)
        else sequenceLength? revised (n + 1) (c :: d :: e :: r)
      | r =>
        if revised ∧ b = 0x26 ∧ r.head? = some 0x40 then if n + 3 < 16 then none else some none
        else sequenceLength? revised (n + 1) r

/-- The place, from zero on, and the table that a whole escape sequence designates, without its escape character. -/
def designation? (v : Variant) : List UInt8 → Option (Nat × Mark)
  | [0x24, c] => some (0, ⟨c, true⟩)
  | [0x28, c] => some (0, ⟨c, false⟩)
  | [0x29, c] => some (1, ⟨c, false⟩)
  | [0x2E, c] => if v.third then some (2, ⟨c, false⟩) else none
  | [0x24, 0x28, c] => some (0, ⟨c, true⟩)
  | [0x24, 0x29, c] => some (1, ⟨c, true⟩)
  | [_, _, 0x1B, 0x24, 0x42] => if v.revised then some (0, ⟨0x42, true⟩) else none
  | _ => none

def Variant.knows (v : Variant) (m : Mark) : Bool :=
  m = asciiMark || v.tables.any (·.mark = m) || v.third && (m = latinMark || m = greekMark)

def State.designate (s : State) (place : Nat) (m : Mark) : State :=
  match place with
  | 0 => { s with first := m }
  | 1 => { s with second := m }
  | _ => { s with third := m }

/-- A step at an escape sequence, whose bytes behind the escape character are given. -/
def sequenceStep (v : Variant) (s : State) (r : List UInt8) : State × Step :=
  match sequenceLength? v.revised 1 r with
  | none => (s, .short)
  | some none => (s, .bad 1)
  | some (some n) => match designation? v (r.take (n - 1)) with
    | none => (s, .bad n)
    | some (place, m) => if v.knows m then (s.designate place m, .chars [] n) else (s, .bad n)

/-- A step at a single character of the third table. -/
def thirdStep (s : State) (b : UInt8) : Step :=
  let found :=
    if s.third = latinMark then if b < 0x80 then some (Char.ofNat (b.toNat + 0x80)) else none
    else if s.third = greekMark then greek? (b ^^^ 0x80)
    else if b < 0x80 then some (asciiOf b) else none
  match found with
  | some c => .chars [some c] 3
  | none => .bad 3

/-- A step at a byte that belongs to the table that is shifted to. -/
def tableStep (v : Variant) (s : State) (a : UInt8) (r : List UInt8) : Step :=
  let m := if s.shifted then s.second else s.first
  if m = asciiMark then .one (asciiOf a)
  else
    let width := if m.double then 2 else 1
    if (a :: r).length < width then .short
    else match (v.tables.find? (·.mark = m)).bind fun t ↦ t.find? a (r.headD 0) with
      | some cs => .chars cs width
      | none => .bad width

def step (v : Variant) (s : State) (a : UInt8) (r : List UInt8) : State × Step :=
  if s.verbatim then ({ s with verbatim := !isFinal a }, .one (Char.ofNat a.toNat))
  else if a = 0x1B then match r with
    | [] => (s, .short)
    | b :: r' =>
      if b ∈ [0x28, 0x29, 0x24, 0x2E, 0x26] then sequenceStep v s r
      else if v.third ∧ b = 0x4E then match r' with
        | [] => (s, .short)
        | c :: _ => (s, thirdStep s c)
      else ({ s with verbatim := true }, .one '\x1B')
  else if a = 0x0F ∧ v.shifts then ({ s with shifted := false }, .chars [] 1)
  else if a = 0x0E ∧ v.shifts then ({ s with shifted := true }, .chars [] 1)
  else if a = 0x0A then ({ s with shifted := false }, .one '\n')
  else if a < 0x20 then (s, .one (asciiOf a))
  else if 0x80 ≤ a then (s, .bad 1)
  else (s, tableStep v s a r)

def charset (v : Variant) : Charset := ofSteps State.start (step v)

end Iso2022

open Iso2022

def iso2022Kr : Charset := Iso2022.charset ⟨[ks1001], true, false, false⟩

def iso2022Jp : Charset := Iso2022.charset ⟨[jis0208, jisLatin, jis0208Old], false, false, true⟩

def iso2022Jp1 : Charset := Iso2022.charset ⟨[jis0208, jis0212, jisLatin, jis0208Old], false, false, true⟩

def iso2022Jp2 : Charset :=
  Iso2022.charset ⟨[jis0208, jis0212, ks1001, gb, jisLatin, jis0208Old], false, true, true⟩

def iso2022Jp3 : Charset :=
  Iso2022.charset ⟨[jis0213First 'O' .of2000, jis0208, jis0213Second], false, false, true⟩

def iso2022Jp2004 : Charset :=
  Iso2022.charset ⟨[jis0213First 'Q' .of2004, jis0208, jis0213Second], false, false, true⟩

def iso2022JpExt : Charset :=
  Iso2022.charset ⟨[jis0208, jis0212, jisLatin, jisKatakana, jis0208Old], false, false, true⟩

end ClusterMatrix.Charset

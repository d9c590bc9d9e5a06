import ClusterMatrix.Charset.Basic
import ClusterMatrix.Charset.Strips
import ClusterMatrix.Charset.Tables.Ksx1001

/-!
# Korean character sets

EUC writes the table of KS X 1001 in two bytes. It lacks most syllables: the unified code adds them in their
order, and another set composes each syllable of the numbers of its letters.
-/

namespace ClusterMatrix.Charset

/-- The syllable of a leading consonant, a vowel and a trailing consonant or none, by their numbers. -/
def syllable (leading vowel trailing : Nat) : Char := Char.ofNat (0xAC00 + leading * 588 + vowel * 28 + trailing)

/-- The number of a leading consonant in the row of the letters. -/
def leadingOf? (b : UInt8) : Option Nat :=
  [0xA1, 0xA2, 0xA4, 0xA7, 0xA8, 0xA9, 0xB1, 0xB2, 0xB3, 0xB5, 0xB6, 0xB7, 0xB8, 0xB9, 0xBA, 0xBB, 0xBC, 0xBD,
    0xBE].findIdx? (· = b)

def vowelOf? (b : UInt8) : Option Nat := if 0xBF ≤ b ∧ b ≤ 0xD3 then some (b.toNat - 0xBF) else none

/-- The number of a trailing consonant, where the filler is none. -/
def trailingOf? (b : UInt8) : Option Nat :=
  [0xD4, 0xA1, 0xA2, 0xA3, 0xA4, 0xA5, 0xA6, 0xA7, 0xA9, 0xAA, 0xAB, 0xAC, 0xAD, 0xAE, 0xAF, 0xB0, 0xB1, 0xB2,
    0xB4, 0xB5, 0xB6, 0xB7, 0xB8, 0xBA, 0xBB, 0xBC, 0xBD, 0xBE].findIdx? (· = b)

/-- A syllable that is made of a filler and three letters, behind the filler. -/
def composed? : List UInt8 → Option Char
  | 0xA4 :: a :: 0xA4 :: b :: 0xA4 :: c :: _ => match leadingOf? a, vowelOf? b, trailingOf? c with
    | some l, some v, some t => some (syllable l v t)
    | _, _, _ => none
  | _ => none

def eucKr : Charset :=
  ofStep fun a r ↦
    if a < 0x80 then .one (asciiOf a)
    else match a, r with
      | _, [] => .short
      | 0xA4, 0xD4 :: r =>
        if r.length < 6 then .short
        else match composed? r with
          | some c => .chars [some c] 8
          | none => .bad 1
      | a, b :: _ => match ksx1001.find? (lowerCell a b) with
        | some c => .chars [some c] 2
        | none => .bad 1

/-- The syllables that KS X 1001 lacks, in ascending order. -/
def furtherSyllables : Array Nat := ksx1001.lacking 0xAC00 11172

/-- The place of a second byte among those of the further syllables. -/
def syllablePlace? (b : UInt8) : Option Nat :=
  if 0x41 ≤ b ∧ b ≤ 0x5A then some (b.toNat - 0x41)
  else if 0x61 ≤ b ∧ b ≤ 0x7A then some (b.toNat - 0x61 + 26)
  else if 0x81 ≤ b ∧ b ≤ 0xFE then some (b.toNat - 0x81 + 52)
  else none

/-- A further syllable by its two bytes: there are 178 to a leading byte, and 84 where KS X 1001 has its rows. -/
def furtherSyllable? (a b : UInt8) : Option Char :=
  match syllablePlace? b with
  | none => none
  | some place =>
    let index? :=
      if 0x81 ≤ a ∧ a ≤ 0xA0 then some ((a.toNat - 0x81) * 178 + place)
      else if 0xA1 ≤ a ∧ a ≤ 0xC6 ∧ place < 84 then some (32 * 178 + (a.toNat - 0xA1) * 84 + place)
      else none
    (index?.bind (furtherSyllables[·]?)).map Char.ofNat

/-- The unified Hangul code. -/
def codePage949 : Charset :=
  ofPairs fun a b ↦ ((ksx1001.find? (lowerCell a b)).or (furtherSyllable? a b)).map ([·])

/-- What five bits of a composed syllable name: a letter by its number, a filler, or nothing. -/
inductive Letter where
  | letter (n : Nat)
  | filler
  | nothing
deriving DecidableEq, Repr

/-- The letter at a place, where `gaps` are the places that name nothing behind the filler. -/
def Letter.ofPlace (filler : Nat) (gaps : List Nat) (last n : Nat) : Letter :=
  if n = filler then .filler
  else if n < filler ∨ last < n ∨ n ∈ gaps then .nothing
  else .letter (n - filler - 1 - gaps.countP (· < n))

/-- The letters that stand alone, from the consonants that may lead on. -/
def aloneLeading (n : Nat) : Option Char := "ㄱㄲㄴㄷㄸㄹㅁㅂㅃㅅㅆㅇㅈㅉㅊㅋㅌㅍㅎ".toList[n]?

/-- The consonants that may trail, where the first place is that of none. -/
def aloneTrailing (n : Nat) : Option Char :=
  " ㄱㄲㄳㄴㄵㄶㄷㄹㄺㄻㄼㄽㄾㄿㅀㅁㅂㅄㅅㅆㅇㅈㅊㅋㅌㅍㅎ".toList[n]?

/-- What sixteen bits that begin with a one make of three letters. -/
def johabSyllable? (bits : Nat) : Option Char :=
  let leading := Letter.ofPlace 1 [] 20 (bits / 1024 % 32)
  let vowel := Letter.ofPlace 2 [8, 9, 16, 17, 24, 25] 29 (bits / 32 % 32)
  let trailing := Letter.ofPlace 1 [18] 29 (bits % 32)
  match leading, vowel, trailing with
  | .letter l, .letter v, .letter t => some (syllable l v (t + 1))
  | .letter l, .letter v, .filler => some (syllable l v 0)
  | .letter l, .filler, .filler => aloneLeading l
  | .filler, .letter v, .filler => some (Char.ofNat (0x314F + v))
  | .filler, .filler, .letter t => aloneTrailing (t + 1)
  | .filler, .filler, .filler => some '\u3000'
  | _, _, _ => none

/-- The cell of KS X 1001 that two bytes name, for what is no syllable. Two rows share a leading byte. -/
def johabCell? (a b : UInt8) : Option Nat :=
  let isSecond := (0x31 ≤ b && b ≤ 0x7E) || (0x91 ≤ b && b ≤ 0xFE)
  if a = 0xDF ∨ 0xF9 < a ∨ !isSecond ∨ (a = 0xDA ∧ 0xA1 ≤ b ∧ b ≤ 0xD3) ∨ a < 0xD9 then none
  else
    let row := if a < 0xE0 then 2 * (a.toNat - 0xD9) else 2 * a.toNat - 0x197
    let column := b.toNat - if b < 0x91 then 0x31 else 0x43
    some (if column < 94 then (row + 0x21) * 256 + column + 0x21
      else (row + 0x22) * 256 + (column - 94) + 0x21)

/-- The set that composes syllables of their letters. -/
def johab : Charset :=
  ofPairs fun a b ↦
    (if a < 0xD8 then johabSyllable? (cell a b) else (johabCell? a b).bind ksx1001.find?).map ([·])

end ClusterMatrix.Charset

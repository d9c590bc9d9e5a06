import ClusterMatrix.Text.Hex
import ClusterMatrix.Text.Names.Ancient
import ClusterMatrix.Text.Names.Eastern
import ClusterMatrix.Text.Names.Hieroglyphs
import ClusterMatrix.Text.Names.Other
import ClusterMatrix.Text.Names.Pictographs
import ClusterMatrix.Text.Names.Southern
import ClusterMatrix.Text.Names.Symbols
import ClusterMatrix.Text.Names.Western
import ClusterMatrix.Text.Ranges
import ClusterMatrix.Text.Split

/-!
# Names of characters

The names of Unicode 14. Most stand in tables; an ideograph is named by its number, and a syllable of Hangul by
its letters. The case of the letters in a name matters only for unified ideographs and syllables.
-/

namespace ClusterMatrix.Text

/-- The code points of the unified ideographs. -/
def ideographRanges : Ranges :=
  [(0x3400, 0x4DBF), (0x4E00, 0x9FFF), (0x20000, 0x2A6DF), (0x2A700, 0x2B738), (0x2B740, 0x2B81D),
    (0x2B820, 0x2CEA1), (0x2CEB0, 0x2EBE0), (0x30000, 0x3134A)]

/-- The code points of the compatibility ideographs. -/
def compatibilityRanges : Ranges := [(0xF900, 0xFA6D), (0xFA70, 0xFAD9), (0x2F800, 0x2FA1D)]

/-- What stands behind a text at the front. -/
def behind? (front : String) (s : List Char) : Option (List Char) :=
  if front.toList.isPrefixOf s then some (s.drop front.length) else none

/-- The number of an ideograph, in four or five digits with capital letters. -/
def ideographNumber? (s : List Char) : Option Nat :=
  if (s.length = 4 ∨ s.length = 5) ∧ s.all fun c ↦ isHex c && !('a' ≤ c && c ≤ 'f') then
    some (s.foldl (fun n c ↦ 16 * n + (hexValue? c).getD 0) 0)
  else none

def leadingNames : List String :=
  ["G", "GG", "N", "D", "DD", "R", "M", "B", "BB", "S", "SS", "", "J", "JJ", "C", "K", "T", "P", "H"]

def vowelNames : List String :=
  ["A", "AE", "YA", "YAE", "EO", "E", "YEO", "YE", "O", "WA", "WAE", "OE", "YO", "U", "WEO", "WE", "WI", "YU",
    "EU", "YI", "I"]

def trailingNames : List String :=
  ["", "G", "GG", "GS", "N", "NJ", "NH", "D", "L", "LG", "LM", "LB", "LS", "LT", "LP", "LH", "M", "B", "BS", "S",
    "SS", "NG", "J", "C", "K", "T", "P", "H"]

/-- The number of the longest of some names that stands at the front, and what stands behind it. -/
def longestAt? (names : List String) (s : List Char) : Option (Nat × List Char) :=
  let found := names.zipIdx.filter fun p ↦ p.1.toList.isPrefixOf s
  (found.foldl (fun best p ↦ match best with
    | some (b : String × Nat) => if b.1.length < p.1.length then some p else some b
    | none => some p) none).map fun p ↦ (p.2, s.drop p.1.length)

/-- The code point of the syllable with the given letters. -/
def syllableNamed? (s : List Char) : Option Nat :=
  match longestAt? leadingNames s with
  | none => none
  | some (leading, s) => match longestAt? vowelNames s with
    | none => none
    | some (vowel, s) => match longestAt? trailingNames s with
      | some (trailing, []) => some (0xAC00 + leading * 588 + vowel * 28 + trailing)
      | _ => none

/-- What is known within a table: the next code point, the words of the name in front of it, and the code point that
was looked for, if it is found. -/
structure NameSearch where
  next : Nat
  words : List (List Char)
  found : Option Nat

/-- Goes on by one name, which the number of words that it shares begins. -/
def NameSearch.step (target : List (List Char)) (search : NameSearch) (written : List Char) : NameSearch :=
  let shared := ((written.head?).bind hexValue?).getD 0
  let words := search.words.take shared ++ splitOn ' ' written.tail
  ⟨search.next + 1, words, if words = target then some search.next else search.found⟩

def NameSearch.line (target : List (List Char)) (search : NameSearch) (line : Nat × String) : NameSearch :=
  (splitOn ';' line.2.toList).foldl (NameSearch.step target) { search with next := line.1 }

/-- The code point that a table gives a name in capital letters. -/
def tableNamed? (table : List (Nat × String)) (name : List Char) : Option Nat :=
  (table.foldl (NameSearch.line (splitOn ' ' name)) ⟨0, [], none⟩).found

def nameTables : List (List (Nat × String)) :=
  [westernNames, southernNames, symbolsNames, easternNames, ancientNames, hieroglyphsNames, pictographsNames]

/-- The code point that a name in capital letters has by a table or by its number. -/
def listed? (name : List Char) : Option Nat :=
  match behind? "CJK COMPATIBILITY IDEOGRAPH-" name with
  | some digits =>
    (ideographNumber? digits).filter fun n ↦ digits.head? ≠ some '0' && compatibilityRanges.contains n
  | none => (otherNames.lookup (String.ofList name)).or (nameTables.findSome? fun t ↦ tableNamed? t name)

/-- The character with a name. -/
def characterNamed? (name : List Char) : Option Char :=
  let point := match behind? "HANGUL SYLLABLE " name, behind? "CJK UNIFIED IDEOGRAPH-" name with
    | some letters, _ => syllableNamed? letters
    | none, some number => (ideographNumber? number).filter fun n ↦ ideographRanges.contains n
    | none, none => listed? (name.map Char.toUpper)
  point.map Char.ofNat

end ClusterMatrix.Text

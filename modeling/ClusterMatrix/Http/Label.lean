import ClusterMatrix.Http.LabelContext
import ClusterMatrix.Http.LabelRanges
import ClusterMatrix.Text.Composition
import ClusterMatrix.Text.Lower
import ClusterMatrix.Text.Punycode

/-!
# Labels of host names

A label beyond ASCII is written as ASCII behind the prefix `xn--`. It holds small letters, digits, hyphens and
marks; some more characters may stand next to certain others only. Where a part of a label is written from
right to left, its beginning and its end have to fit.
-/

namespace ClusterMatrix.Http.Label

def isAscii (c : Char) : Bool := c.toNat < 128

/-- What stands around a character of a label, the nearest first on both sides. -/
structure Context where
  before : List Char
  after : List Char
deriving DecidableEq, Repr

def inRanges (rs : Text.Ranges) (c : Char) : Bool := rs.contains c.toNat

/-- The class of the marks that take the vowel from a letter of an Indic script. -/
def viramaClass : Nat := 9

def Context.followsVirama (x : Context) : Bool :=
  x.before.head?.any fun c ↦ Text.markClass c = viramaClass

/-- The letter that is next but for transparent characters belongs to a set. -/
def meets (rs : Text.Ranges) (s : List Char) : Bool :=
  match s.dropWhile (inRanges transparentRanges) with
  | c :: _ => inRanges rs c
  | [] => false

/-- The letters at both sides would join. -/
def Context.separates (x : Context) : Bool :=
  meets (joinsBothRanges ++ joinsNextRanges) x.before &&
    meets (joinsBothRanges ++ joinsPreviousRanges) x.after

def arabicDigits : Text.Ranges := [(0x660, 0x669)]

def easternDigits : Text.Ranges := [(0x6F0, 0x6F9)]

/-- A character that needs a context stands in one. -/
def Context.allows (x : Context) (c : Char) : Bool :=
  let others := x.before ++ x.after
  match c.toNat with
  | 0x200C => x.followsVirama || x.separates
  | 0x200D => x.followsVirama
  | 0xB7 => x.before.head? = some 'l' && x.after.head? = some 'l'
  | 0x375 => x.after.head?.any (inRanges greekRanges)
  | 0x5F3 => x.before.head?.any (inRanges hebrewRanges)
  | 0x5F4 => x.before.head?.any (inRanges hebrewRanges)
  | 0x30FB => others.any (inRanges japaneseRanges)
  | _ =>
    if inRanges arabicDigits c then !others.any (inRanges easternDigits)
    else inRanges easternDigits c && !others.any (inRanges arabicDigits)

def isPermitted (c : Char) : Bool :=
  if isAscii c then c = '-' || c.isDigit || c.isLower else inRanges labelRanges c

/-- Every character is permitted, or stands in a context that allows it. `before` is what stands in front, the
nearest first. -/
def hasPermitted (before : List Char) : List Char → Bool
  | [] => true
  | c :: s => (isPermitted c || Context.allows ⟨before, s⟩ c) && hasPermitted (c :: before) s

/-- The direction in which a character is written. -/
inductive Direction where
  | rightward
  | leftward
  /-- A digit of a script that is written from right to left. -/
  | leftwardDigit
  | digit
  /-- A mark, which goes with the character in front. -/
  | mark
  | neutral
deriving DecidableEq, Repr

def direction (c : Char) : Direction :=
  if isAscii c then if c.isDigit then .digit else if c = '-' then .neutral else .rightward
  else if inRanges leftwardRanges c then .leftward
  else if inRanges leftwardDigitRanges c then .leftwardDigit
  else if inRanges digitRanges c then .digit
  else if inRanges markRanges c then .mark
  else if inRanges neutralRanges c then .neutral
  else .rightward

/-- Nothing in the label is written from right to left, or all of it goes together: it begins with a letter, holds
no letter of the other direction and digits of one kind, and ends, but for marks, with a letter or a digit. -/
def isDirected (s : List Char) : Bool :=
  let ds := s.map direction
  let ending := (ds.reverse.dropWhile (· = .mark)).head?
  if !(ds.contains .leftward || ds.contains .leftwardDigit) then true
  else match ds.head? with
    | some .leftward =>
      !ds.contains .rightward && !(ds.contains .digit && ds.contains .leftwardDigit) &&
        (ending = some .leftward || ending = some .digit || ending = some .leftwardDigit)
    | _ => false

/-- A label has no hyphen at either end, no two hyphens behind its second character, and no combining character at
its beginning. -/
def hasSoundEnds (s : List Char) : Bool :=
  s.head? != some '-' && s.getLast? != some '-' && (s.drop 2).take 2 != ['-', '-'] &&
    !s.head?.any (inRanges combiningRanges)

/-- A label as it may be written in its own script. -/
def isSound (s : List Char) : Bool :=
  !s.isEmpty && hasPermitted [] s && hasSoundEnds s && Text.composed s = s && isDirected s

def acePrefix : List Char := "xn--".toList

/-- A label in ASCII is sound itself, or stands for a sound one behind the prefix. -/
def isSoundAscii (s : List Char) : Bool :=
  if acePrefix.isPrefixOf s then
    match Text.Punycode.decode (s.drop 4) with
    | (points, none) =>
      s.getLast? != some '-' && points.all (·.isValidChar) && isSound (points.map Char.ofNat)
    | (_, some _) => false
  else isSound s

/-- The written form of a label: in lower case, and with a prefix and as ASCII if it has other characters. A label
that is ASCII from the start is not looked at. -/
def written? (s : List Char) : Option (List Char) :=
  let lowered := Text.lower s
  if s.all isAscii then some lowered
  else if lowered.all isAscii then
    if isSoundAscii lowered ∧ lowered.length ≤ 63 then some lowered else none
  else
    let written := acePrefix ++ Text.Punycode.encode lowered
    if isSound lowered ∧ written.length ≤ 63 then some written else none

end ClusterMatrix.Http.Label

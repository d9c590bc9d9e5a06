import ClusterMatrix.Charset.Basic
import ClusterMatrix.Charset.Strips
import ClusterMatrix.Charset.Tables.Big5
import ClusterMatrix.Charset.Tables.Big5Added
import ClusterMatrix.Charset.Tables.Gb18030
import ClusterMatrix.Charset.Tables.Gb2312

/-!
# Chinese character sets

GB 2312 and the sets that add to it, and Big5 with its additions. GBK has all ideographs of the first block of
Unicode: those that GB 2312 lacks fill two blocks of cells in their order. GB 18030 has the rest of Unicode in
four bytes.
-/

namespace ClusterMatrix.Charset

def eucCn : Charset := ofPairs fun a b ↦ (gb2312.find? (lowerCell a b)).map ([·])

/-- The ideographs that GB 2312 lacks, in ascending order. -/
def furtherIdeographs : Array Nat := gb2312.lacking 0x4E00 20902

/-- The place of a second byte among those of GBK. -/
def gbkPlace? (b : UInt8) : Option Nat :=
  if 0x40 ≤ b ∧ b ≤ 0x7E then some (b.toNat - 0x40)
  else if 0x80 ≤ b ∧ b ≤ 0xFE then some (b.toNat - 0x41)
  else none

/-- A further ideograph by its two bytes: there are 190 to a leading byte, and 96 where GB 2312 has its rows. -/
def furtherIdeograph? (a b : UInt8) : Option Char :=
  match gbkPlace? b with
  | none => none
  | some place =>
    let index? :=
      if 0x81 ≤ a ∧ a ≤ 0xA0 then some ((a.toNat - 0x81) * 190 + place)
      else if 0xAA ≤ a ∧ a ≤ 0xFD ∧ place < 96 then some (32 * 190 + (a.toNat - 0xAA) * 96 + place)
      else none
    (index?.bind (furtherIdeographs[·]?)).map Char.ofNat

/-- The characters of two bytes of GBK. -/
def gbkPair? (a b : UInt8) : Option Char :=
  (gbkAdded.find? (cell a b)).or ((gb2312.find? (lowerCell a b)).or (furtherIdeograph? a b))

def gbk : Charset := ofPairs fun a b ↦ (gbkPair? a b).map ([·])

/-- A private character of GB 18030 by its two bytes. -/
def gb18030Private? (n : Nat) : Option Char :=
  (gb18030Private.find? fun r ↦ r.1 ≤ n && n < r.1 + r.2.1).map fun r ↦ Char.ofNat (r.2.2 + (n - r.1))

def gb18030Pair? (a b : UInt8) : Option Char :=
  (gbkPair? a b).or ((gb18030Added.find? (cell a b)).or (gb18030Private? (cell a b)))

/-- The character that has the given place among those of four bytes. -/
def gb18030Run? (n : Nat) : Option Char :=
  if gb18030RunsEnd ≤ n then none
  else ((gb18030Runs.takeWhile fun r ↦ r.1 ≤ n).getLast?).map fun r ↦ Char.ofNat (r.2 + (n - r.1))

/-- A character of four bytes: those beyond 16 bits begin at another leading byte. -/
def gb18030Four? (a b c d : UInt8) : Option Char :=
  if 0x81 ≤ a ∧ a ≤ 0xFE ∧ 0x30 ≤ b ∧ b ≤ 0x39 ∧ 0x81 ≤ c ∧ c ≤ 0xFE ∧ 0x30 ≤ d ∧ d ≤ 0x39 then
    let place (lead : Nat) :=
      ((a.toNat - lead) * 10 + (b.toNat - 0x30)) * 1260 + (c.toNat - 0x81) * 10 + (d.toNat - 0x30)
    if a < 0x85 then gb18030Run? (place 0x81)
    else if 0x90 ≤ a then character? (0x10000 + place 0x90)
    else none
  else none

def gb18030 : Charset :=
  ofStep fun a r ↦
    if a < 0x80 then .one (asciiOf a)
    else match r with
      | [] => .short
      | b :: r =>
        if 0x30 ≤ b ∧ b ≤ 0x39 then match r with
          | c :: d :: _ => match gb18030Four? a b c d with
            | some ch => .chars [some ch] 4
            | none => .bad 1
          | _ => .short
        else match gb18030Pair? a b with
          | some c => .chars [some c] 2
          | none => .bad 1

/-- GB 2312 in seven bits, where a tilde and a brace change between it and ASCII. The state tells that the bytes
are in GB 2312. -/
def hz : Charset :=
  ofSteps false fun inGb a r ↦
    if a = 0x7E then match inGb, r with
      | _, [] => (inGb, .short)
      | false, 0x7E :: _ => (false, .chars [some '~'] 2)
      | false, 0x7B :: _ => (true, .chars [] 2)
      | false, 0x0A :: _ => (false, .chars [] 2)
      | true, 0x7D :: _ => (false, .chars [] 2)
      | _, _ => (inGb, .bad 1)
    else if 0x80 ≤ a then (inGb, .bad 1)
    else if !inGb then (inGb, .one (asciiOf a))
    else match r with
      | [] => (inGb, .short)
      | b :: _ => match gb2312.find? (cell a b) with
        | some c => (inGb, .chars [some c] 2)
        | none => (inGb, .bad 1)

def big5Set : Charset := ofPairs fun a b ↦ (big5.find? (cell a b)).map ([·])

def codePage950 : Charset :=
  ofPairs fun a b ↦ ((windows950Added.find? (cell a b)).or (big5.find? (cell a b))).map ([·])

/-- Big5 with the Hong Kong character set. -/
def big5Hkscs : Charset :=
  ofPairs fun a b ↦
    let n := cell a b
    match hkscsAdded.find? n, hkscsPairs.lookup n with
    | some c, _ => some [c]
    | none, some pair => some pair.toList
    | none, none => if n ∈ hkscsLacks then none else (big5.find? n).map ([·])

end ClusterMatrix.Charset

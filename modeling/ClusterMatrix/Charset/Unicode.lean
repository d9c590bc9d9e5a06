import ClusterMatrix.Charset.Basic

/-!
# ASCII, Latin-1 and the forms of Unicode

A longest beginning of a character that does not go on counts as one stretch of bytes that stands for none.
-/

namespace ClusterMatrix.Charset

def ascii : Charset := ⟨fun bs ↦ bs.map fun b ↦ if b < 0x80 then some (asciiOf b) else none⟩

/-- Every byte is the character of its number. -/
def latin1 : Charset := ⟨fun bs ↦ bs.map fun b ↦ some (Char.ofNat b.toNat)⟩

def continues (b : UInt8) : Bool := 0x80 ≤ b && b ≤ 0xBF

/-- The second bytes that may follow a leading byte of a longer character. -/
def secondOk (lead b : UInt8) : Bool :=
  if lead = 0xE0 then 0xA0 ≤ b && b ≤ 0xBF
  else if lead = 0xED then 0x80 ≤ b && b ≤ 0x9F
  else if lead = 0xF0 then 0x90 ≤ b && b ≤ 0xBF
  else if lead = 0xF4 then 0x80 ≤ b && b ≤ 0x8F
  else continues b

def low6 (b : UInt8) : Nat := b.toNat % 64

def readUtf8 : List UInt8 → Read
  | [] => []
  | a :: r =>
    if a < 0x80 then some (Char.ofNat a.toNat) :: readUtf8 r
    else if 0xC2 ≤ a && a ≤ 0xDF then match r with
      | [] => [none]
      | b :: r' =>
        if continues b then some (Char.ofNat (a.toNat % 32 * 64 + low6 b)) :: readUtf8 r'
        else none :: readUtf8 (b :: r')
    else if 0xE0 ≤ a && a ≤ 0xEF then match r with
      | [] => [none]
      | b :: r' =>
        if secondOk a b then match r' with
          | [] => [none]
          | c :: r'' =>
            if continues c then
              some (Char.ofNat ((a.toNat % 16 * 64 + low6 b) * 64 + low6 c)) :: readUtf8 r''
            else none :: readUtf8 (c :: r'')
        else none :: readUtf8 (b :: r')
    else if 0xF0 ≤ a && a ≤ 0xF4 then match r with
      | [] => [none]
      | b :: r' =>
        if secondOk a b then match r' with
          | [] => [none]
          | c :: r'' =>
            if continues c then match r'' with
              | [] => [none]
              | d :: r''' =>
                if continues d then
                  some (Char.ofNat (((a.toNat % 8 * 64 + low6 b) * 64 + low6 c) * 64 + low6 d)) ::
                    readUtf8 r'''
                else none :: readUtf8 (d :: r''')
            else none :: readUtf8 (c :: r'')
        else none :: readUtf8 (b :: r')
    else none :: readUtf8 r

/-- The 16-bit units of some bytes, and nothing for a byte left over. -/
def units16 (bigEndian : Bool) : List UInt8 → List (Option Nat)
  | a :: b :: r =>
    some (if bigEndian then a.toNat * 256 + b.toNat else b.toNat * 256 + a.toNat) ::
      units16 bigEndian r
  | [_] => [none]
  | [] => []

def readUnits16 : List (Option Nat) → Read
  | [] => []
  | none :: us => none :: readUnits16 us
  | some h :: us =>
    if 0xD800 ≤ h && h < 0xDC00 then match us with
      | some l :: us' =>
        if 0xDC00 ≤ l && l < 0xE000 then
          some (Char.ofNat (0x10000 + (h - 0xD800) * 0x400 + (l - 0xDC00))) :: readUnits16 us'
        else none :: readUnits16 (some l :: us')
      | none :: _ => [none]
      | [] => [none]
    else if 0xDC00 ≤ h && h < 0xE000 then none :: readUnits16 us
    else some (Char.ofNat h) :: readUnits16 us

def readUtf32 (bigEndian : Bool) : List UInt8 → Read
  | a :: b :: c :: d :: r =>
    let n :=
      if bigEndian then ((a.toNat * 256 + b.toNat) * 256 + c.toNat) * 256 + d.toNat
      else ((d.toNat * 256 + c.toNat) * 256 + b.toNat) * 256 + a.toNat
    (if n.isValidChar then some (Char.ofNat n) else none) :: readUtf32 bigEndian r
  | [] => []
  | _ => [none]

def utf8 : Charset := ⟨readUtf8⟩

/-- UTF-8 with an optional byte order mark at the front. -/
def utf8Marked : Charset where
  read
    | 0xEF :: 0xBB :: 0xBF :: bs => readUtf8 bs
    | bs => readUtf8 bs

def utf16 (bigEndian : Bool) : Charset := ⟨fun bs ↦ readUnits16 (units16 bigEndian bs)⟩

/-- UTF-16 whose byte order a mark at the front tells; little-endian without one. -/
def utf16Marked : Charset where
  read
    | 0xFF :: 0xFE :: bs => (utf16 false).read bs
    | 0xFE :: 0xFF :: bs => (utf16 true).read bs
    | bs => (utf16 false).read bs

def utf32 (bigEndian : Bool) : Charset := ⟨readUtf32 bigEndian⟩

/-- UTF-32 whose byte order a mark at the front tells; little-endian without one. -/
def utf32Marked : Charset where
  read
    | 0xFF :: 0xFE :: 0x00 :: 0x00 :: bs => readUtf32 false bs
    | 0x00 :: 0x00 :: 0xFE :: 0xFF :: bs => readUtf32 true bs
    | bs => readUtf32 false bs

end ClusterMatrix.Charset

/-!
# Bits of compressed data

Compressed data is read bit by bit, from the lowest bit of each byte on. A number of several bits begins with its
lowest one. Reading stops where the data ends, or at a fault.
-/

namespace ClusterMatrix.Compress

/-- What is wrong with compressed data. -/
inductive Fault where
  | headerCheck
  | method
  | windowSize
  | dictionary
  | headerFlags
  | headerSum
  | blockType
  | storedLengths
  | tooManySymbols
  | lengthCodes
  | lengthRepeat
  | noBlockEnd
  | literalCodes
  | distanceCodes
  | literalCode
  | distanceCode
  | distance
  | dataSum
  | dataLength
deriving DecidableEq, Repr

/-- Why reading stops: there is no more data, or a fault. -/
inductive Stop where
  | short
  | bad (f : Fault)
deriving DecidableEq, Repr

/-- The bytes to be read, of the first of which some bits are read already. -/
structure Bits where
  used : Nat
  bytes : List UInt8
deriving DecidableEq, Repr

abbrev Reader := StateT Bits (Except Stop)

namespace Bits

def ofBytes (bytes : List UInt8) : Bits := ⟨0, bytes⟩

/-- The bytes that no bit is read of. -/
def whole (b : Bits) : List UInt8 := if b.used = 0 then b.bytes else b.bytes.tail

def next? (b : Bits) : Option (Nat × Bits) :=
  match b.bytes with
  | [] => none
  | byte :: rest =>
    some (byte.toNat / Nat.pow 2 b.used % 2, if b.used < 7 then ⟨b.used + 1, b.bytes⟩ else ⟨0, rest⟩)

end Bits

namespace Reader

def fail {α : Type} (f : Fault) : Reader α := throw (.bad f)

def bit : Reader Nat := do
  match (← get).next? with
  | none => throw .short
  | some (b, rest) =>
    set rest
    return b

/-- A number of some bits. -/
def number : (bits : Nat) → Reader Nat
  | 0 => return 0
  | n + 1 => do
    let low ← bit
    return low + 2 * (← number n)

/-- Drops the bits that are left of a byte. -/
def align : Reader Unit := modify fun b ↦ ⟨0, b.whole⟩

/-- Drops some bytes. -/
def skip (count : Nat) : Reader Unit := do
  let bytes := (← get).whole
  if bytes.length < count then throw .short
  set (Bits.ofBytes (bytes.drop count))

/-- Drops the bytes up to one that is zero, and this one. The number bounds the bytes. -/
def skipText : (bound : Nat) → Reader Unit
  | 0 => throw .short
  | n + 1 => do
    if (← number 8) = 0 then return () else skipText n

end Reader

end ClusterMatrix.Compress

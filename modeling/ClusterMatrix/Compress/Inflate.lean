import ClusterMatrix.Compress.Huffman

/-!
# Inflating

Deflated data is a row of blocks. A block is stored as it is, or it is a row of literal bytes and of copies of
bytes that came before, both written in Huffman codes: fixed ones, or codes that the block begins with.
-/

namespace ClusterMatrix.Compress

/-- The least length of a copy for each of its symbols, and how many bits go on to say the length. -/
def lengthBases : List (Nat × Nat) :=
  [(3, 0), (4, 0), (5, 0), (6, 0), (7, 0), (8, 0), (9, 0), (10, 0), (11, 1), (13, 1), (15, 1), (17, 1),
    (19, 2), (23, 2), (27, 2), (31, 2), (35, 3), (43, 3), (51, 3), (59, 3), (67, 4), (83, 4), (99, 4),
    (115, 4), (131, 5), (163, 5), (195, 5), (227, 5), (258, 0)]

/-- The same for the distance that a copy goes back. -/
def distanceBases : List (Nat × Nat) :=
  [(1, 0), (2, 0), (3, 0), (4, 0), (5, 1), (7, 1), (9, 2), (13, 2), (17, 3), (25, 3), (33, 4), (49, 4),
    (65, 5), (97, 5), (129, 6), (193, 6), (257, 7), (385, 7), (513, 8), (769, 8), (1025, 9), (1537, 9),
    (2049, 10), (3073, 10), (4097, 11), (6145, 11), (8193, 12), (12289, 12), (16385, 13), (24577, 13)]

/-- The order in which the lengths of the words for lengths are written. -/
def lengthOrder : List Nat := [16, 17, 18, 0, 8, 7, 9, 6, 10, 5, 11, 4, 12, 3, 13, 2, 14, 1, 15]

/-- The codes of a block: for literals and lengths of copies, and for distances. -/
structure Codes where
  literals : Code
  distances : Code
deriving Repr

namespace Codes

def fixed : Codes where
  literals := .ofLengths (List.replicate 144 8 ++ List.replicate 112 9 ++ List.replicate 24 7 ++
    List.replicate 8 8)
  distances := .ofLengths (List.replicate 32 5)

/-- Reads word lengths, the latest first, until there are `total`. A length can be repeated, and so can zero. The
first number bounds the steps. -/
def readLengths (code : Code) (total : Nat) : (bound : Nat) → (lengths : List Nat) → Reader (List Nat)
  | 0, lengths => return lengths
  | n + 1, lengths => do
    if total ≤ lengths.length then return lengths
    let symbol := (← code.read).getD 0
    if symbol < 16 then readLengths code total n (symbol :: lengths)
    else
      let (least, more) := if symbol = 16 then (3, 2) else if symbol = 17 then (3, 3) else (11, 7)
      let count := least + (← Reader.number more)
      if symbol = 16 ∧ lengths = [] then Reader.fail .lengthRepeat
      let length := if symbol = 16 then lengths.headD 0 else 0
      if total < lengths.length + count then Reader.fail .lengthRepeat
      readLengths code total n (List.replicate count length ++ lengths)

/-- Reads the codes at the front of a block. -/
def read : Reader Codes := do
  let literals := (← Reader.number 5) + 257
  let distances := (← Reader.number 5) + 1
  let lengths := (← Reader.number 4) + 4
  if 286 < literals ∨ 30 < distances then Reader.fail .tooManySymbols
  let written ← (lengthOrder.take lengths).mapM fun s ↦ do return (s, ← Reader.number 3)
  let code := Code.ofLengths ((List.range 19).map fun s ↦ (written.lookup s).getD 0)
  if !code.isSound false then Reader.fail .lengthCodes
  let total := literals + distances
  let all := (← readLengths code total total []).reverse
  if all.getD 256 0 = 0 then Reader.fail .noBlockEnd
  let codes : Codes := ⟨.ofLengths (all.take literals), .ofLengths (all.drop literals)⟩
  if !codes.literals.isSound true then Reader.fail .literalCodes
  if !codes.distances.isSound true then Reader.fail .distanceCodes
  return codes

end Codes

/-- What one step in a block gives: a byte, a copy of some length from some distance back, or the end. -/
inductive Item where
  | literal (b : UInt8)
  | copy (length distance : Nat)
  | stop
deriving DecidableEq, Repr

def Item.read (codes : Codes) : Reader Item := do
  match ← codes.literals.read with
  | none => Reader.fail .literalCode
  | some s =>
    if s < 256 then return .literal (UInt8.ofNat s)
    if s = 256 then return .stop
    match lengthBases[s - 257]? with
    | none => Reader.fail .literalCode
    | some (least, more) =>
      let length := least + (← Reader.number more)
      match (← codes.distances.read).bind fun d ↦ distanceBases[d]? with
      | none => Reader.fail .distanceCode
      | some (least, more) => return .copy length (least + (← Reader.number more))

/-- Appends a copy of bytes that lie some distance back; it may run into itself. -/
def copyBack (distance : Nat) : (length : Nat) → Array UInt8 → Array UInt8
  | 0, out => out
  | n + 1, out => copyBack distance n (out.push (out.getD (out.size - distance) 0))

/-- The bytes written, and where reading has come to. -/
structure Progress where
  output : Array UInt8
  place : Except Stop Bits

/-- Goes on to the end of a block. The number bounds the items. -/
def items (codes : Codes) : (bound : Nat) → Array UInt8 → Bits → Progress
  | 0, out, _ => ⟨out, .error .short⟩
  | n + 1, out, bits => match (Item.read codes).run bits with
    | .error stop => ⟨out, .error stop⟩
    | .ok (.literal b, bits) => items codes n (out.push b) bits
    | .ok (.copy length distance, bits) =>
      if out.size < distance then ⟨out, .error (.bad .distance)⟩
      else items codes n (copyBack distance length out) bits
    | .ok (.stop, bits) => ⟨out, .ok bits⟩

/-- The head of a block. -/
inductive Block where
  | stored (length : Nat)
  | coded (codes : Codes)
deriving Repr

/-- Reads the head of a block, and whether the block is the last one. -/
def Block.read : Reader (Bool × Block) := do
  let last := (← Reader.bit) = 1
  match ← Reader.number 2 with
  | 0 =>
    Reader.align
    let length ← Reader.number 16
    let check ← Reader.number 16
    if length + check ≠ 0xFFFF then Reader.fail .storedLengths
    return (last, .stored length)
  | 1 => return (last, .coded .fixed)
  | 2 => return (last, .coded (← Codes.read))
  | _ => Reader.fail .blockType

/-- Appends the bytes of a stored block. -/
def storedBytes (length : Nat) (out : Array UInt8) (bits : Bits) : Progress :=
  let out := out ++ (bits.bytes.take length).toArray
  if bits.bytes.length < length then ⟨out, .error .short⟩
  else ⟨out, .ok ⟨0, bits.bytes.drop length⟩⟩

/-- Goes on to the end of the last block. The number bounds the blocks. -/
def blocks (items : Codes → Array UInt8 → Bits → Progress) :
    (bound : Nat) → Array UInt8 → Bits → Progress
  | 0, out, _ => ⟨out, .error .short⟩
  | n + 1, out, bits => match Block.read.run bits with
    | .error stop => ⟨out, .error stop⟩
    | .ok ((last, block), bits) =>
      let progress := match block with
        | .stored length => storedBytes length out bits
        | .coded codes => items codes out bits
      match progress.place with
      | .error _ => progress
      | .ok bits => if last then progress else blocks items n progress.output bits

/-- Inflates data. Each block and each item has a bit of its own, which bounds their number. -/
def inflate (bits : Bits) : Progress :=
  let bound := 8 * bits.bytes.length + 1
  blocks (fun codes ↦ items codes bound) bound #[] bits

end ClusterMatrix.Compress

import ClusterMatrix.Compress.Checksum
import ClusterMatrix.Compress.Inflate

/-!
# Containers of deflated data

Deflated data stands by itself, or between a head and a sum that checks it. What is missing at the end is no
fault.
-/

namespace ClusterMatrix.Compress

/-- How deflated data is wrapped up. -/
inductive Container where
  | bare
  | zlib
  | gzip
deriving DecidableEq, Repr

/-- What came out of a container: the bytes, and what follows the container, or why reading stopped. -/
structure Unpacked where
  output : Array UInt8
  ending : Except Stop (List UInt8)

namespace Container

/-- Reads the head of a `zlib` container: two bytes that are a multiple of 31. -/
def zlibHead : Reader Unit := do
  let method ← Reader.number 4
  let size ← Reader.number 4
  let flags ← Reader.number 8
  if ((size * 16 + method) * 256 + flags) % 31 ≠ 0 then Reader.fail .headerCheck
  if method ≠ 8 then Reader.fail .method
  if 7 < size then Reader.fail .windowSize
  if flags / 32 % 2 = 1 then
    let _ ← Reader.number 32
    Reader.fail .dictionary

/-- Reads the head of a `gzip` container: extra data, a name and a comment, if there are any. -/
def gzipHead : Reader Unit := do
  let start := (← get).bytes
  if (← Reader.number 16) ≠ 0x8B1F then Reader.fail .headerCheck
  let method ← Reader.number 8
  let flags ← Reader.number 8
  if method ≠ 8 then Reader.fail .method
  if 31 < flags then Reader.fail .headerFlags
  let has (place : Nat) : Bool := flags / Nat.pow 2 place % 2 = 1
  Reader.skip 6
  if has 2 then Reader.skip (← Reader.number 16)
  if has 3 then Reader.skipText (start.length + 1)
  if has 4 then Reader.skipText (start.length + 1)
  if has 1 then
    let head := start.take (start.length - (← get).bytes.length)
    let sum ← Reader.number 16
    if sum ≠ crc32 head % 65536 then Reader.fail .headerSum

def head : Container → Reader Unit
  | .bare => return ()
  | .zlib => zlibHead
  | .gzip => gzipHead

/-- Four bytes, the first of which counts most. -/
def bigNumber : Reader Nat := do
  let a ← Reader.number 8
  let b ← Reader.number 8
  let c ← Reader.number 8
  let d ← Reader.number 8
  return ((a * 256 + b) * 256 + c) * 256 + d

/-- Reads what follows the data. -/
def foot (output : List UInt8) : Container → Reader Unit
  | .bare => Reader.align
  | .zlib => do
    Reader.align
    if (← bigNumber) ≠ adler32 output then Reader.fail .dataSum
  | .gzip => do
    Reader.align
    if (← Reader.number 32) ≠ crc32 output then Reader.fail .dataSum
    if (← Reader.number 32) ≠ output.length % Nat.pow 2 32 then Reader.fail .dataLength

/-- Unpacks the container at the front of some bytes. -/
def unpack (c : Container) (bytes : List UInt8) : Unpacked :=
  match c.head.run (.ofBytes bytes) with
  | .error stop => ⟨#[], .error stop⟩
  | .ok (_, bits) =>
    let progress := inflate bits
    match progress.place with
    | .error stop => ⟨progress.output, .error stop⟩
    | .ok bits => match (c.foot progress.output.toList).run bits with
      | .error stop => ⟨progress.output, .error stop⟩
      | .ok (_, bits) => ⟨progress.output, .ok bits.whole⟩

end Container

end ClusterMatrix.Compress

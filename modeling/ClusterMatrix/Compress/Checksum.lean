/-! # Sums that tell whether data is undamaged -/

namespace ClusterMatrix.Compress

/-- One step of the division that the cyclic redundancy check of 32 bits is the remainder of. -/
def crcStep (n : UInt32) : UInt32 := if n &&& 1 = 1 then (n >>> 1) ^^^ 0xEDB88320 else n >>> 1

def crcByte (sum : UInt32) (b : UInt8) : UInt32 :=
  let n := sum ^^^ b.toUInt32
  crcStep (crcStep (crcStep (crcStep (crcStep (crcStep (crcStep (crcStep n)))))))

/-- The cyclic redundancy check of 32 bits. -/
def crc32 (bytes : List UInt8) : Nat := (bytes.foldl crcByte 0xFFFFFFFF ^^^ 0xFFFFFFFF).toNat

/-- The sum of the bytes and the sum of these sums, both by the largest prime below 2¹⁶. -/
def adler32 (bytes : List UInt8) : Nat :=
  let sums := bytes.foldl (fun (p : Nat × Nat) b ↦
    let a := (p.1 + b.toNat) % 65521
    (a, (p.2 + a) % 65521)) (1, 0)
  sums.2 * 65536 + sums.1

end ClusterMatrix.Compress

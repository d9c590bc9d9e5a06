import ClusterMatrix.Charset.Unicode

/-! # The character set of a JSON text -/

namespace ClusterMatrix.Charset

/-- The character set of a JSON text, told from its first four bytes: a byte order mark, or where the
zero bytes of two ASCII characters stand. -/
def guess? (bs : List UInt8) : Option Charset :=
  let sample := bs.take 4
  if sample = [0xFF, 0xFE, 0x00, 0x00] ∨ sample = [0x00, 0x00, 0xFE, 0xFF] then some utf32Marked
  else if sample.take 3 = [0xEF, 0xBB, 0xBF] then some utf8Marked
  else if sample.take 2 = [0xFF, 0xFE] ∨ sample.take 2 = [0xFE, 0xFF] then some utf16Marked
  else match sample.map (· == 0) with
    | [true, false, true, false] => some (utf16 true)
    | [false, true, false, true] => some (utf16 false)
    | [true, true, true, false] => some (utf32 true)
    | [false, true, true, true] => some (utf32 false)
    | zeros => if zeros.any id then none else some utf8

end ClusterMatrix.Charset

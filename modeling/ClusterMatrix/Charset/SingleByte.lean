import ClusterMatrix.Charset.Basic
import ClusterMatrix.Charset.Tables.SingleByte

/-! # Character sets of one byte for each character -/

namespace ClusterMatrix.Charset

/-- The set with the given characters at its last bytes. -/
def singleByte (last : String) : Charset :=
  let chars := last.toList.toArray
  let first := 256 - chars.size
  ⟨fun bs ↦ bs.map fun b ↦
    if b.toNat < first then some (Char.ofNat b.toNat)
    else (chars[b.toNat - first]?).filter (· ≠ '\uFFFD')⟩

end ClusterMatrix.Charset

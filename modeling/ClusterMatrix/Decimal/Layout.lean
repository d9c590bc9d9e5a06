import ClusterMatrix.Decimal.Shortest

/-!
# Decimal texts of binary64 values

A finite value is written with its shortest digits: positionally while the exponent of the leading
digit is from -4 to 15, and else with a signed exponent of at least two digits. A whole number keeps
one zero behind the point. What is no finite number has a name, which depends on the format.
-/

namespace ClusterMatrix.Decimal

/-- The words for what is no finite number. -/
structure Words where
  notANumber : String
  infinity : String

def positional (ds : List Char) (e : Int) : List Char :=
  if e < 0 then '0' :: '.' :: List.replicate (-e - 1).toNat '0' ++ ds
  else
    let n := e.toNat + 1
    if ds.length ≤ n then ds ++ List.replicate (n - ds.length) '0' ++ ['.', '0']
    else ds.take n ++ '.' :: ds.drop n

def scientific (ds : List Char) (e : Int) : List Char :=
  let mantissa := match ds with
    | d :: r@(_ :: _) => d :: '.' :: r
    | ds => ds
  let n := Nat.toDigits 10 e.natAbs
  mantissa ++ 'e' :: (if e < 0 then '-' else '+') :: List.replicate (2 - n.length) '0' ++ n

def Scaled.text (d : Scaled) : List Char :=
  let ds := Nat.toDigits 10 d.digits
  let e := d.exp + ds.length - 1
  if -4 ≤ e ∧ e < 16 then positional ds e else scientific ds e

/-- The text of a finite value without its sign. -/
def sizeText (b : UInt64) : List Char :=
  let x := Binary.ofBits b
  if x.m = 0 then ['0', '.', '0'] else x.shortest.text

def floatText (w : Words) (x : Float) : List Char :=
  if x.isNaN then w.notANumber.toList
  else
    let sign := if x.toBits.toNat / raised 2 63 = 1 then ['-'] else []
    sign ++ if x.isInf then w.infinity.toList else sizeText x.toBits

/-- The binary64 value nearest to `m * 10 ^ e`. Beyond the range of the format the value is known
without the power of ten: infinity above and zero below. -/
def nearest (negative : Bool) (m : Nat) (e : Int) : Float :=
  let size : Float :=
    let magnitude := (Nat.toDigits 10 m).length + e
    if m = 0 ∨ magnitude < -400 then 0
    else if 400 < magnitude then 1 / 0
    else Float.ofScientific m (e < 0) e.natAbs
  if negative then -size else size

end ClusterMatrix.Decimal

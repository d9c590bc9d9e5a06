/-!
# Shortest decimals

The decimal with the fewest digits among those that read back to a given binary64 value, and the
nearest one of that length. The digits are found by exact arithmetic on the bits.
-/

namespace ClusterMatrix.Decimal

/-- The power of a base, or one if the exponent is negative. -/
def raised (base : Nat) (k : Int) : Nat := Nat.pow base k.toNat

/-- The size `m * 2 ^ q` of a finite binary64 value. Just above a power of two the gap to the value
below is half the gap to the value above: `narrow` says so. -/
structure Binary where
  m : Nat
  q : Int
  narrow : Bool

/-- The size that the bits of a finite value stand for. -/
def Binary.ofBits (b : UInt64) : Binary :=
  let e : Nat := (b.toNat / raised 2 52) % raised 2 11
  let f : Nat := b.toNat % raised 2 52
  if e = 0 then ⟨f, -1074, false⟩ else ⟨raised 2 52 + f, (e : Int) - 1075, f == 0 && 1 < e⟩

/-- The decimal `digits * 10 ^ exp`. -/
structure Scaled where
  digits : Nat
  exp : Int
deriving DecidableEq, Repr

namespace Binary

/-- Compares a decimal with `a * 2 ^ i`. -/
def compareWith (d : Scaled) (a : Nat) (i : Int) : Ordering :=
  compare (d.digits * raised 10 d.exp * raised 2 (-i)) (a * raised 2 i * raised 10 (-d.exp))

/-- The decimal lies among the numbers that are nearest to the value, a tie going to the even `m`. -/
def readsBack (x : Binary) (d : Scaled) : Bool :=
  let low := compareWith d (if x.narrow then 4 * x.m - 1 else 4 * x.m - 2) (x.q - 2)
  let high := compareWith d (4 * x.m + 2) (x.q - 2)
  let ends := x.m % 2 == 0
  (low == .gt || ends && low == .eq) && (high == .lt || ends && high == .eq)

/-- The value is below `10 ^ k`. -/
def isBelow (x : Binary) (k : Int) : Bool :=
  x.m * raised 2 x.q * raised 10 (-k) < raised 10 k * raised 2 (-x.q)

/-- The least `k` such that the value is below `10 ^ k`, found beside the binary logarithm. -/
def scale (x : Binary) : Int :=
  let k := (((x.m.log2 : Int) + x.q) * 1233).fdiv 4096
  ([k, k + 1].find? x.isBelow).getD (k + 2)

/-- The multiple of `10 ^ e` just below the value, or the value. -/
def floorAt (x : Binary) (e : Int) : Nat :=
  (x.m * raised 2 x.q * raised 10 (-e)) / (raised 10 e * raised 2 (-x.q))

/-- Of two neighbours that both read back, the nearer one, and the even one if they are equally near. -/
def nearer (x : Binary) (d : Scaled) : Scaled :=
  match compareWith ⟨2 * d.digits + 1, d.exp⟩ (2 * x.m) x.q with
  | .gt => d
  | .lt => ⟨d.digits + 1, d.exp⟩
  | .eq => if d.digits % 2 = 0 then d else ⟨d.digits + 1, d.exp⟩

/-- The best decimal among the multiples of `10 ^ e`, if one of them reads back. -/
def onGrid? (x : Binary) (e : Int) : Option Scaled :=
  let d : Scaled := ⟨x.floorAt e, e⟩
  let d' : Scaled := ⟨x.floorAt e + 1, e⟩
  match x.readsBack d, x.readsBack d' with
  | true, true => some (x.nearer d)
  | true, false => some d
  | false, true => some d'
  | false, false => none

/-- The exact value as a decimal. -/
def exact (x : Binary) : Scaled :=
  ⟨x.m * raised 2 x.q * raised 5 (-x.q), min x.q 0⟩

end Binary

/-- Moves the zeros at the end of the digits into the exponent. -/
def Scaled.strip : (fuel : Nat) → Scaled → Scaled
  | 0, d => d
  | n + 1, d => if d.digits ≠ 0 ∧ d.digits % 10 = 0 then strip n ⟨d.digits / 10, d.exp + 1⟩ else d

/-- The shortest decimal of a positive value: seventeen digits always suffice. -/
def Binary.shortest (x : Binary) : Scaled :=
  let grids := (List.range 17).map fun (n : Nat) ↦ x.scale - (n + 1 : Int)
  ((grids.findSome? x.onGrid?).getD x.exact).strip 800

end ClusterMatrix.Decimal

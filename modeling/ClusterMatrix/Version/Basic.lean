/-!
# Versions

A version is a triple of natural numbers, ordered by its first component, then the second, then the
third.
-/

namespace ClusterMatrix

@[ext] structure Version where
  major : Nat
  minor : Nat
  patch : Nat
deriving DecidableEq, Repr

namespace Version

instance : LT Version where
  lt v w := v.major < w.major ∨
    v.major = w.major ∧ (v.minor < w.minor ∨ v.minor = w.minor ∧ v.patch < w.patch)

theorem lt_iff {v w : Version} : v < w ↔ v.major < w.major ∨
    v.major = w.major ∧ (v.minor < w.minor ∨ v.minor = w.minor ∧ v.patch < w.patch) := Iff.rfl

instance (v w : Version) : Decidable (v < w) := decidable_of_iff _ lt_iff.symm

theorem lt_irrefl (v : Version) : ¬v < v := by
  rw [lt_iff]
  omega

theorem lt_trans {u v w : Version} (h : u < v) (h' : v < w) : u < w := by
  rw [lt_iff] at *
  omega

/-- Two versions of which neither is below the other are equal. -/
theorem eq_of_not_lt {v w : Version} (h : ¬v < w) (h' : ¬w < v) : v = w := by
  rw [lt_iff] at *
  ext <;> omega

/-- The components in decimal, with points between them. -/
def text (v : Version) : List Char :=
  Nat.toDigits 10 v.major ++ '.' :: Nat.toDigits 10 v.minor ++ '.' :: Nat.toDigits 10 v.patch

end Version

end ClusterMatrix

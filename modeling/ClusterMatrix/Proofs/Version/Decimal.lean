import ClusterMatrix.Proofs.Catalog.Malformed

/-!
# Versions in decimal

The decimal text of a version is read as the version, with zeros in front of its components and with whatever around it
does not lengthen them. The components of a version that was read are small enough to be read again, so coercing a text
and writing out the version is a normal form.
-/

namespace ClusterMatrix

namespace Text

/-- A number in decimal behind some zeros. -/
def decimal (zeros n : Nat) : List Char := List.replicate zeros '0' ++ Nat.toDigits 10 n

variable {zeros n : Nat}

theorem isDigit_of_mem_decimal : ∀ c ∈ decimal zeros n, c.isDigit = true := by
  intro c hc
  rcases List.mem_append.1 hc with hc | hc
  · rw [List.eq_of_mem_replicate hc]
    rfl
  · exact Nat.isDigit_of_mem_toDigits (by decide) (by decide) hc

theorem decimal_ne_nil : decimal zeros n ≠ [] := by
  simp [decimal]

/-- Zeros in front do not change the number. -/
theorem ofDigitChars_decimal : Nat.ofDigitChars 10 (decimal zeros n) 0 = n := by
  simp [decimal, Nat.ofDigitChars_append]

/-- A number below a power of ten has no more digits than the exponent. -/
theorem length_decimal_le_iff {k : Nat} (hk : 0 < k) : (decimal 0 n).length ≤ k ↔ n < 10 ^ k := by
  simp [decimal, Nat.length_toDigits_le_iff (by decide : 1 < 10) hk]

end Text

namespace Version

open Text (NoDigit decimal)

variable {w : Version} {s before behind ds : List Char} {rs : List Run} {i j k : Nat}

/-- A version in decimal, with zeros in front of its components. -/
def written (i j k : Nat) (w : Version) : List Char :=
  decimal i w.major ++ '.' :: (decimal j w.minor ++ '.' :: decimal k w.patch)

@[simp] theorem written_zero (w : Version) : w.written 0 0 0 = w.text := by
  simp [written, decimal, text]

/-- No component is written with more than sixteen digits. -/
structure IsShort (i j k : Nat) (w : Version) : Prop where
  major : (decimal i w.major).length ≤ 16
  minor : (decimal j w.minor).length ≤ 16
  patch : (decimal k w.patch).length ≤ 16

/-- Without zeros in front, the bound for the components is the bound for their digits. -/
theorem isShort_zero_iff : w.IsShort 0 0 0 ↔ w.major < 10 ^ 16 ∧ w.minor < 10 ^ 16 ∧ w.patch < 10 ^ 16 := by
  simp only [← Text.length_decimal_le_iff (k := 16) (by decide)]
  constructor
  · intro h
    exact ⟨h.major, h.minor, h.patch⟩
  · rintro ⟨hmajor, hminor, hpatch⟩
    exact ⟨hmajor, hminor, hpatch⟩

/-- A point in front of a decimal number is all that lies between its digits and those before. -/
theorem Cut.point (n : Nat) (hs : NoDigit s) (h : Cut s rs) :
    Cut ('.' :: (decimal i n ++ s)) (⟨['.'], decimal i n⟩ :: rs) :=
  .run (b := ['.']) (by simp) Text.isDigit_of_mem_decimal Text.decimal_ne_nil hs h

/-- The components of a written version are the first runs of the text, if no digit stands in front of it or behind. -/
theorem cut_written (i j k : Nat) (w : Version) (hbefore : ∀ c ∈ before, c.isDigit = false) (hbehind : NoDigit behind) :
    Cut (before ++ (w.written i j k ++ behind))
      (⟨before, decimal i w.major⟩ :: ⟨['.'], decimal j w.minor⟩ :: ⟨['.'], decimal k w.patch⟩ :: runs behind) := by
  have hpoint : ∀ t, NoDigit ('.' :: t) := fun _ ↦ Text.noDigit_cons_iff.2 (by decide)
  have hdigits : ∀ c ∈ decimal i w.major, c.isDigit = true := Text.isDigit_of_mem_decimal
  have hpatch := (cut_runs behind).point (i := k) w.patch hbehind
  have hminor := hpatch.point (i := j) w.minor (hpoint _)
  have hmajor := Cut.run hbefore hdigits Text.decimal_ne_nil (hpoint _) hminor
  simpa [written] using hmajor

/-- The search finds a written version behind a text without digits, whatever follows it but a digit. -/
theorem coerce?_written (h : w.IsShort i j k) (hbefore : ∀ c ∈ before, c.isDigit = false) (hbehind : NoDigit behind) :
    coerce? (before ++ (w.written i j k ++ behind)) = some w := by
  rw [coerce?_of_cut (cut_written i j k w hbefore hbehind), ofRuns?_cons, if_pos (Run.isShort_iff.2 h.major)]
  simp [furtherOf, continued, Run.isShort, Run.value, h.minor, h.patch, Text.ofDigitChars_decimal]

end Version

namespace Catalog

open Text (NoDigit)
open Version (IsShort)

variable {v : Json} {w : Version}

/-- A version is read back from its decimal text. Zeros in front of its components are no harm as long as no component
has more than sixteen digits, and neither is a text without digits in front, or one behind that begins with no digit.
A version that was read once can be written without zeros, and is read again. -/
structure ReadsBack (w : Version) : Prop where
  decorated : ∀ (i j k : Nat) (before behind : List Char) (v : Json), w.IsShort i j k →
    (∀ c ∈ before, c.isDigit = false) → NoDigit behind →
      v.text? = some (before ++ (w.written i j k ++ behind)) → spelled v = .ok w
  isShort_iff : w.IsShort 0 0 0 ↔ w.major < 10 ^ 16 ∧ w.minor < 10 ^ 16 ∧ w.patch < 10 ^ 16
  again : ∀ v : Json, spelled v = .ok w → spelled (.str (String.ofList w.text)) = .ok w

theorem spelled_of_coerce? {s : List Char} (hv : v.text? = some s) (h : Version.coerce? s = some w) :
    spelled v = .ok w := by
  rw [spelled_of_text? hv, h]
  rfl

/-- What is read is short enough to be written and read. -/
theorem isShort_of_spelled (h : spelled v = .ok w) : w.IsShort 0 0 0 := by
  cases hv : v.text? with
  | none =>
    rw [spelled_of_text?_eq_none hv] at h
    cases h
  | some s => exact Version.isShort_zero_iff.2 ((toldByRuns_of_text? hv).lt w h)

/-- Every version is read back from its decimal text. -/
theorem readsBack (w : Version) : ReadsBack w := by
  refine ⟨?_, Version.isShort_zero_iff, ?_⟩
  · intro i j k before behind v hshort hbefore hbehind hv
    exact spelled_of_coerce? hv (Version.coerce?_written hshort hbefore hbehind)
  · intro v h
    have hfound : Version.coerce? ([] ++ (w.written 0 0 0 ++ [])) = some w :=
      Version.coerce?_written (isShort_of_spelled h) nofun Text.noDigit_nil
    exact spelled_of_coerce? (by simp [Json.text?]) hfound

/-- Sixteen digits are read with all their zeros, and what follows the patch is not. -/
example : spelled (.str "okd-0000000000000009.0.012.7-rc1") = .ok ⟨9, 0, 12⟩ := rfl

end Catalog

end ClusterMatrix

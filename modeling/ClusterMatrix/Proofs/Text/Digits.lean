import Mathlib.Algebra.Group.Nat.Defs

/-!
# Runs of decimal digits

A run of digits ends where no digit stands behind it. The number that a run writes is bounded by its length.
-/

namespace ClusterMatrix.Text

/-- No digit stands at the front. -/
def NoDigit (s : List Char) : Prop := ∀ c ∈ s.head?, c.isDigit = false

theorem noDigit_nil : NoDigit [] := fun _ hc ↦ nomatch hc

@[simp] theorem noDigit_cons_iff {c : Char} {s : List Char} : NoDigit (c :: s) ↔ c.isDigit = false := by
  simp [NoDigit]

theorem not_noDigit_append {ds : List Char} (hd : ∀ c ∈ ds, c.isDigit = true) (hne : ds ≠ []) (s : List Char) :
    ¬ NoDigit (ds ++ s) := by
  cases ds with
  | nil => exact absurd rfl hne
  | cons c ds =>
    rw [List.cons_append, noDigit_cons_iff, hd c List.mem_cons_self]
    exact Bool.noConfusion

section

variable {ds rest : List Char} (hd : ∀ c ∈ ds, c.isDigit = true) (hr : NoDigit rest)
include hd hr

theorem takeWhile_isDigit_append : (ds ++ rest).takeWhile Char.isDigit = ds := by
  rw [List.takeWhile_append_of_pos hd]
  cases rest with
  | nil => exact List.append_nil ds
  | cons c rest =>
    rw [noDigit_cons_iff] at hr
    rw [List.takeWhile_cons_of_neg (by rw [hr]; exact Bool.false_ne_true), List.append_nil]

theorem dropWhile_isDigit_append : (ds ++ rest).dropWhile Char.isDigit = rest := by
  rw [List.dropWhile_append_of_pos hd]
  cases rest with
  | nil => rfl
  | cons c rest =>
    rw [noDigit_cons_iff] at hr
    rw [List.dropWhile_cons_of_neg (by rw [hr]; exact Bool.false_ne_true)]

end

/-- The run of digits at the front is empty. -/
theorem isEmpty_takeWhile_isDigit_iff {s : List Char} : (s.takeWhile Char.isDigit).isEmpty = true ↔ NoDigit s := by
  rw [List.isEmpty_iff]
  cases s with
  | nil => exact iff_of_true rfl noDigit_nil
  | cons c s =>
    rw [noDigit_cons_iff, List.takeWhile_cons]
    cases c.isDigit with
    | true => exact iff_of_false (List.cons_ne_nil _ _) Bool.noConfusion
    | false => exact iff_of_true rfl rfl

theorem noDigit_dropWhile (s : List Char) : NoDigit (s.dropWhile Char.isDigit) := by
  intro c hc
  have h := List.head?_dropWhile_not Char.isDigit s
  rw [Option.mem_def.1 hc] at h
  exact h

theorem digit_le_nine {c : Char} (hc : c.isDigit = true) : c.toNat - '0'.toNat ≤ 9 := by
  rw [Char.isDigit, Bool.and_eq_true, decide_eq_true_iff, decide_eq_true_iff] at hc
  have hle : c.toNat ≤ '9'.toNat := hc.2
  have h9 : '9'.toNat = '0'.toNat + 9 := rfl
  omega

/-- As many digits as there are bound the number that they write. -/
theorem ofDigitChars_lt {ds : List Char} (hd : ∀ c ∈ ds, c.isDigit = true) (n : Nat) :
    Nat.ofDigitChars 10 ds n < (n + 1) * 10 ^ ds.length := by
  induction ds generalizing n with
  | nil =>
    rw [List.length_nil, Nat.pow_zero, Nat.mul_one]
    exact Nat.lt_succ_self n
  | cons c ds ih =>
    rw [List.forall_mem_cons] at hd
    have hc := digit_le_nine hd.1
    rw [Nat.ofDigitChars_cons, List.length_cons, Nat.pow_succ']
    calc Nat.ofDigitChars 10 ds (10 * n + (c.toNat - '0'.toNat))
        < (10 * n + (c.toNat - '0'.toNat) + 1) * 10 ^ ds.length := ih hd.2 _
      _ ≤ (n + 1) * 10 * 10 ^ ds.length := Nat.mul_le_mul_right _ (by omega)
      _ = (n + 1) * (10 * 10 ^ ds.length) := Nat.mul_assoc _ _ _

/-- Digits write a number below the power of ten that their count gives. -/
theorem ofDigitChars_zero_lt {ds : List Char} (hd : ∀ c ∈ ds, c.isDigit = true) :
    Nat.ofDigitChars 10 ds 0 < 10 ^ ds.length := by
  have h := ofDigitChars_lt hd 0
  rwa [Nat.zero_add, Nat.one_mul] at h

end ClusterMatrix.Text

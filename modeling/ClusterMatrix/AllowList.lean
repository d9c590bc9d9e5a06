import ClusterMatrix.Text.Basic

/-!
# Allow lists

A finite set of distribution names, kept in ascending order of code points and without repetition,
so that two allow lists with the same members are equal.
-/

namespace ClusterMatrix

structure AllowList where
  names : List Text
  ascending : names.Pairwise (· < ·)
deriving DecidableEq

namespace AllowList

/-- Puts a name in its place among ascending names. -/
def place (x : Text) : List Text → List Text
  | [] => [x]
  | y :: ys => if x < y then x :: y :: ys else if x = y then y :: ys else y :: place x ys

@[simp] theorem mem_place {x z : Text} {ys : List Text} : z ∈ place x ys ↔ z = x ∨ z ∈ ys := by
  induction ys with
  | nil => simp [place]
  | cons y ys ih =>
    unfold place
    split
    · simp
    · split
      · subst x
        simp
      · simp only [List.mem_cons, ih]
        exact or_left_comm

theorem pairwise_place {x : Text} {ys : List Text} (h : ys.Pairwise (· < ·)) :
    (place x ys).Pairwise (· < ·) := by
  induction ys with
  | nil => simp [place]
  | cons y ys ih =>
    rw [List.pairwise_cons] at h
    unfold place
    split
    · rename_i hxy
      refine List.pairwise_cons.2 ⟨?_, List.pairwise_cons.2 h⟩
      intro z hz
      rcases List.mem_cons.1 hz with rfl | hz
      · exact hxy
      · exact Text.lt_trans hxy (h.1 z hz)
    · split
      · exact List.pairwise_cons.2 h
      · rename_i hxy hne
        refine List.pairwise_cons.2 ⟨?_, ih h.2⟩
        intro z hz
        rcases mem_place.1 hz with rfl | hz
        · rcases Decidable.em (y < z) with hlt | hlt
          · exact hlt
          · exact absurd (Text.eq_of_not_lt hxy hlt) hne
        · exact h.1 z hz

instance : Membership Text AllowList := ⟨fun a x ↦ x ∈ a.names⟩

theorem mem_iff {a : AllowList} {x : Text} : x ∈ a ↔ x ∈ a.names := Iff.rfl

instance (x : Text) (a : AllowList) : Decidable (x ∈ a) := inferInstanceAs (Decidable (x ∈ a.names))

/-- Ascending lists with the same members are equal. -/
theorem eq_of_mem_iff {xs ys : List Text} (hx : xs.Pairwise (· < ·)) (hy : ys.Pairwise (· < ·))
    (h : ∀ z, z ∈ xs ↔ z ∈ ys) : xs = ys := by
  induction xs generalizing ys with
  | nil =>
    cases ys with
    | nil => rfl
    | cons y ys => exact absurd ((h y).2 List.mem_cons_self) List.not_mem_nil
  | cons x xs ih =>
    cases ys with
    | nil => exact absurd ((h x).1 List.mem_cons_self) List.not_mem_nil
    | cons y ys =>
      rw [List.pairwise_cons] at hx hy
      have e : x = y := by
        rcases List.mem_cons.1 ((h x).1 List.mem_cons_self) with e | hm
        · exact e
        · rcases List.mem_cons.1 ((h y).2 List.mem_cons_self) with e | hm'
          · exact e.symm
          · exact absurd (Text.lt_trans (hx.1 y hm') (hy.1 x hm)) (Text.lt_irrefl x)
      subst y
      congr 1
      refine ih hx.2 hy.2 fun z ↦ ⟨fun hz ↦ ?_, fun hz ↦ ?_⟩
      · rcases List.mem_cons.1 ((h z).1 (List.mem_cons_of_mem x hz)) with rfl | hz'
        · exact absurd (hx.1 z hz) (Text.lt_irrefl z)
        · exact hz'
      · rcases List.mem_cons.1 ((h z).2 (List.mem_cons_of_mem x hz)) with rfl | hz'
        · exact absurd (hy.1 z hz) (Text.lt_irrefl z)
        · exact hz'

@[ext] theorem ext {a b : AllowList} (h : ∀ x, x ∈ a ↔ x ∈ b) : a = b := by
  obtain ⟨xs, hx⟩ := a
  obtain ⟨ys, hy⟩ := b
  obtain rfl : xs = ys := eq_of_mem_iff hx hy h
  rfl

def empty : AllowList := ⟨[], List.Pairwise.nil⟩

def insert (x : Text) (a : AllowList) : AllowList := ⟨place x a.names, pairwise_place a.ascending⟩

def ofList (xs : List Text) : AllowList := xs.foldr insert empty

def isEmpty (a : AllowList) : Bool := a.names.isEmpty

@[simp] theorem not_mem_empty (x : Text) : x ∉ empty := List.not_mem_nil

@[simp] theorem mem_insert {x y : Text} {a : AllowList} : y ∈ a.insert x ↔ y = x ∨ y ∈ a := mem_place

@[simp] theorem mem_ofList {x : Text} {xs : List Text} : x ∈ ofList xs ↔ x ∈ xs := by
  induction xs with
  | nil => simp [ofList]
  | cons y ys ih =>
    rw [ofList, List.foldr_cons, mem_insert, List.mem_cons]
    exact or_congr Iff.rfl ih

end AllowList

end ClusterMatrix

import Mathlib.Data.List.Basic
import ClusterMatrix.Proofs.Json.Documents

/-!
# Members as they are written

An object can be written with one key several times. The value that is found under a key is the one that was written
last, and only other keys come behind it.
-/

namespace ClusterMatrix.Json

variable {fits : Nat → Prop} {k : Text} {v : Json} {ms pairs : List (Text × Json)} {t text : List Char}

/-! ## Values under a key -/

/-- The value stands under the key, and nothing behind it does. -/
def IsLast (k : Text) (v : Json) (pairs : List (Text × Json)) : Prop :=
  ∃ before after, pairs = before ++ (k, v) :: after ∧ ∀ m ∈ after, m.1 ≠ k

theorem lookup_cons (k l : Text) (v : Json) (ms : List (Text × Json)) :
    ((k, v) :: ms).lookup l = if l = k then some v else ms.lookup l := by
  rw [List.lookup_cons]
  by_cases h : l = k
  · rw [if_pos h, beq_iff_eq.2 h]
  · rw [if_neg h, beq_eq_false_iff_ne.2 h]

theorem lookup_put (k l : Text) (v : Json) (ms : List (Text × Json)) :
    (put k v ms).lookup l = if l = k then some v else ms.lookup l := by
  induction ms with
  | nil => rw [put_nil, lookup_cons]
  | cons m ms ih =>
    obtain ⟨k', v'⟩ := m
    rw [put, lookup_cons]
    by_cases hk : k' = k
    · rw [if_pos hk, lookup_cons, hk]
      by_cases h : l = k
      · rw [if_pos h, if_pos h]
      · rw [if_neg h, if_neg h, if_neg h]
    · rw [if_neg hk, lookup_cons, ih]
      by_cases h : l = k'
      · rw [if_pos h, if_pos h, if_neg (h ▸ hk)]
      · rw [if_neg h, if_neg h]

/-- The members of an object are looked up from the last pair to the first. -/
theorem lookup_membersOf (k : Text) (pairs : List (Text × Json)) :
    (membersOf pairs).lookup k = pairs.reverse.lookup k := by
  induction pairs using List.reverseRecOn with
  | nil => rfl
  | append_singleton pairs p ih => rw [membersOf_concat, lookup_put, ih, List.reverse_concat, lookup_cons]

theorem lookup_membersOf_eq_some_iff : (membersOf pairs).lookup k = some v ↔ IsLast k v pairs := by
  simp only [lookup_membersOf, List.lookup_eq_some_iff, bne_iff_ne]
  constructor
  · rintro ⟨after, before, h, hafter⟩
    refine ⟨before.reverse, after.reverse, ?_, fun m hm ↦ (hafter m (List.mem_reverse.1 hm)).symm⟩
    rw [← List.reverse_reverse pairs, h, List.reverse_append, List.reverse_cons, List.append_assoc]
    rfl
  · rintro ⟨before, after, rfl, hafter⟩
    refine ⟨after.reverse, before.reverse, ?_, fun m hm ↦ (hafter m (List.mem_reverse.1 hm)).symm⟩
    rw [List.reverse_append, List.reverse_cons, List.append_assoc]
    rfl

/-- Of two values for one key the last one is found. -/
example : (membersOf [("a", .int 1), ("b", .int 2), ("a", .int 3)]).lookup (.whole "a") = some (.int 3) := rfl

/-! ## Texts of objects -/

/-- The text denotes an object that is written with the pairs. -/
inductive DenotesObject (fits : Nat → Prop) : List (Text × Json) → List Char → Prop where
  | empty {w : List Char} (hw : IsBlank w) : DenotesObject fits [] ('{' :: (w ++ ['}']))
  | members {m : Text × Json} {ms : List (Text × Json)} {w s u : List Char} (hw : IsBlank w)
      (hm : DenotesMember fits m s) (hms : DenotesMembers fits ms u) :
      DenotesObject fits (m :: ms) ('{' :: (w ++ (s ++ u)))

/-- The text denotes an object that is written with the pairs, with blanks before and behind. -/
def IsObjectDocument (fits : Nat → Prop) (pairs : List (Text × Json)) (text : List Char) : Prop :=
  ∃ w t w', IsBlank w ∧ DenotesObject fits pairs t ∧ IsBlank w' ∧ text = w ++ (t ++ w')

theorem ne_obj_of_mem_words (h : (t, v) ∈ words) : v ≠ .obj ms := by
  rintro rfl
  simp only [words, List.mem_cons, Prod.mk.injEq, reduceCtorEq, and_false, List.not_mem_nil, or_false] at h

theorem denotes_obj_iff : Denotes fits (.obj ms) t ↔ ∃ pairs, DenotesObject fits pairs t ∧ ms = membersOf pairs := by
  constructor
  · intro h
    -- The constructor of texts does not tell what kind of value it makes, so the value is named first.
    generalize ho : Json.obj ms = v at h
    cases h with
    | word hm => exact absurd ho.symm (ne_obj_of_mem_words hm)
    | int _ _ => cases ho
    | float _ _ _ _ => cases ho
    | text _ _ => exact absurd ho.symm (ofText_ne rfl _)
    | emptyArr _ => cases ho
    | arr _ _ _ => cases ho
    | emptyObj hw =>
      cases ho
      exact ⟨[], .empty hw, rfl⟩
    | obj hw hm hms =>
      cases ho
      exact ⟨_, .members hw hm hms, rfl⟩
  · rintro ⟨pairs, h, rfl⟩
    cases h with
    | empty hw => exact .emptyObj hw
    | members hw hm hms => exact .obj hw hm hms

theorem isDocument_obj_iff :
    IsDocument fits (.obj ms) text ↔ ∃ pairs, IsObjectDocument fits pairs text ∧ ms = membersOf pairs := by
  constructor
  · rintro ⟨w, t, w', hw, ht, hw', rfl⟩
    obtain ⟨pairs, ho, hms⟩ := denotes_obj_iff.1 ht
    exact ⟨pairs, ⟨w, t, w', hw, ho, hw', rfl⟩, hms⟩
  · rintro ⟨pairs, ⟨w, t, w', hw, ho, hw', rfl⟩, hms⟩
    exact ⟨w, t, w', hw, denotes_obj_iff.2 ⟨pairs, ho, hms⟩, hw', rfl⟩

end ClusterMatrix.Json

import ClusterMatrix.Catalog.Basic

/-!
# The first fault of a list

A walk that stops at the first fault comes to the fault of the first item that has one, whatever the items behind it
are.
-/

namespace ClusterMatrix.Catalog

/-- The fault is that of the first item that has one. -/
def FirstFault {A : Type} (has : A → Fault → Prop) (as : List A) (f : Fault) : Prop :=
  ∃ before a after, as = before ++ a :: after ∧ (∀ b ∈ before, ∀ g, ¬ has b g) ∧ has a f

variable {A : Type} {has : A → Fault → Prop} {a : A} {as : List A} {f : Fault}

theorem not_firstFault_nil : ¬ FirstFault has [] f := by
  rintro ⟨before, a, after, h, -⟩
  exact List.cons_ne_nil a after (List.append_eq_nil_iff.1 h.symm).2

theorem FirstFault.here (as : List A) (h : has a f) : FirstFault has (a :: as) f := ⟨[], a, as, rfl, nofun, h⟩

theorem FirstFault.cons (ha : ∀ g, ¬ has a g) (h : FirstFault has as f) : FirstFault has (a :: as) f := by
  obtain ⟨before, b, after, rfl, hbefore, hb⟩ := h
  exact ⟨a :: before, b, after, rfl, List.forall_mem_cons.2 ⟨ha, hbefore⟩, hb⟩

/-- A first item with a fault has the first fault, and one without leaves it to the others. -/
theorem firstFault_cons_iff : FirstFault has (a :: as) f ↔ has a f ∨ (∀ g, ¬ has a g) ∧ FirstFault has as f := by
  constructor
  · rintro ⟨before, b, after, h, hbefore, hb⟩
    cases before with
    | nil =>
      obtain ⟨rfl, rfl⟩ := List.cons.inj h
      exact .inl hb
    | cons c before =>
      obtain ⟨rfl, rfl⟩ := List.cons.inj h
      rw [List.forall_mem_cons] at hbefore
      exact .inr ⟨hbefore.1, before, b, after, rfl, hbefore.2, hb⟩
  · rintro (h | ⟨ha, h⟩)
    · exact .here as h
    · exact .cons ha h

/-! A walk takes a step for each item, which ends in a fault just if the item has one. -/

section Step

variable {B : Type} {x : Except Fault B} {b : B} {g : Fault}

theorem firstFault_cons_of_error (h : ∀ f, x = .error f ↔ has a f) (hx : x = .error g) :
    FirstFault has (a :: as) f ↔ g = f := by
  have hg := (h g).1 hx
  rw [firstFault_cons_iff, or_iff_left fun hn ↦ hn.1 g hg, ← h, hx, Except.error.injEq]

theorem firstFault_cons_of_ok (h : ∀ f, x = .error f ↔ has a f) (hx : x = .ok b) :
    FirstFault has (a :: as) f ↔ FirstFault has as f := by
  have hnone : ∀ g, ¬ has a g := by
    intro g hg
    rw [← h, hx] at hg
    cases hg
  rw [firstFault_cons_iff, or_iff_right (hnone f), and_iff_right hnone]

theorem exists_ok_iff : (∃ b, x = .ok b) ↔ ¬ ∃ f, x = .error f := by
  cases x with
  | error f => exact iff_of_false nofun fun h ↦ h ⟨f, rfl⟩
  | ok b => exact iff_of_true ⟨b, rfl⟩ nofun

end Step

/-- Only the faults of the items in the list matter. -/
theorem firstFault_congr {has' : A → Fault → Prop} (h : ∀ a ∈ as, ∀ f, has a f ↔ has' a f) :
    FirstFault has as f ↔ FirstFault has' as f := by
  induction as with
  | nil => exact iff_of_false not_firstFault_nil not_firstFault_nil
  | cons a as ih =>
    rw [List.forall_mem_cons] at h
    simp only [firstFault_cons_iff, h.1, ih h.2]

theorem exists_firstFault_iff : (∃ f, FirstFault has as f) ↔ ∃ a ∈ as, ∃ f, has a f := by
  induction as with
  | nil => exact ⟨fun ⟨_, h⟩ ↦ absurd h not_firstFault_nil, nofun⟩
  | cons a as ih =>
    simp only [List.mem_cons, exists_eq_or_imp, ← ih, firstFault_cons_iff]
    by_cases ha : ∃ g, has a g
    · obtain ⟨g, hg⟩ := ha
      exact ⟨fun _ ↦ .inl ⟨g, hg⟩, fun _ ↦ ⟨g, .inl hg⟩⟩
    · rw [not_exists] at ha
      constructor
      · rintro ⟨f, h | h⟩
        · exact .inl ⟨f, h⟩
        · exact .inr ⟨f, h.2⟩
      · rintro (⟨f, h⟩ | ⟨f, h⟩)
        · exact ⟨f, .inl h⟩
        · exact ⟨f, .inr ⟨ha, h⟩⟩

end ClusterMatrix.Catalog

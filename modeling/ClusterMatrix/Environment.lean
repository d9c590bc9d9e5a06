/-! # Environments: named variables of text -/

namespace ClusterMatrix

structure Environment where
  bindings : List (String × String)

namespace Environment

def get? (env : Environment) (name : String) : Option String := env.bindings.lookup name

def unset (env : Environment) (name : String) : Environment :=
  ⟨env.bindings.filter fun v ↦ v.1 ≠ name⟩

def set (env : Environment) (name value : String) : Environment :=
  ⟨(name, value) :: (env.unset name).bindings⟩

@[simp] theorem get?_set_self (env : Environment) (name value : String) :
    (env.set name value).get? name = some value := by
  simp [get?, set]

end Environment

/-- A text that is there and not empty. -/
def given? : Option String → Option String
  | some s => if s = "" then none else some s
  | none => none

@[simp] theorem given?_none : given? none = none := rfl

theorem given?_eq_none_iff {o : Option String} : given? o = none ↔ o = none ∨ o = some "" := by
  cases o with
  | none => exact iff_of_true rfl (.inl rfl)
  | some s =>
    rw [given?, Option.some.injEq]
    split
    · rename_i h
      exact iff_of_true rfl (.inr h)
    · rename_i h
      simp only [reduceCtorEq, h, or_self]

theorem given?_eq_some_iff {o : Option String} {s : String} :
    given? o = some s ↔ o = some s ∧ s ≠ "" := by
  cases o with
  | none => simp
  | some t =>
    simp only [given?]
    split
    · subst t
      simp only [reduceCtorEq, Option.some.injEq, false_iff]
      rintro ⟨rfl, h⟩
      exact h rfl
    · rename_i h
      simp only [Option.some.injEq]
      constructor
      · rintro rfl
        exact ⟨rfl, h⟩
      · exact fun h ↦ h.1

end ClusterMatrix

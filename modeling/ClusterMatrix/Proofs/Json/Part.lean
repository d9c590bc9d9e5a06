import ClusterMatrix.Json.Basic

/-!
# The parts of a value

What holds of a value through and through holds of each of its parts: of the value itself, of its items and members,
and of theirs.
-/

namespace ClusterMatrix.Json

/-- A value is part of another one: it is the value itself, or part of an item or of a member. -/
inductive Part : Json → Json → Prop where
  | self (v : Json) : Part v v
  | item {w v : Json} {vs : List Json} (hm : v ∈ vs) (h : Part w v) : Part w (.arr vs)
  | member {w : Json} {m : Text × Json} {ms : List (Text × Json)} (hm : m ∈ ms) (h : Part w m.2) :
      Part w (.obj ms)

/-- A property holds of a value and of all that it is made of. -/
def Each (p : Json → Prop) (v : Json) : Prop := ∀ w, Part w v → p w

namespace Each

variable {p : Json → Prop} {v : Json}

theorem self (h : v.Each p) : p v := h v (.self v)

theorem mono {q : Json → Prop} (h : v.Each p) (hpq : ∀ w, p w → q w) : v.Each q := fun w hw ↦ hpq w (h w hw)

theorem item {vs : List Json} (h : (arr vs).Each p) (hm : v ∈ vs) : v.Each p := fun w hw ↦ h w (.item hm hw)

theorem member {m : Text × Json} {ms : List (Text × Json)} (h : (obj ms).Each p) (hm : m ∈ ms) : m.2.Each p :=
  fun w hw ↦ h w (.member hm hw)

theorem arr {vs : List Json} (h : p (.arr vs)) (hvs : ∀ v ∈ vs, v.Each p) : (Json.arr vs).Each p := by
  intro w hw
  cases hw with
  | self => exact h
  | item hm hw => exact hvs _ hm w hw

theorem obj {ms : List (Text × Json)} (h : p (.obj ms)) (hms : ∀ m ∈ ms, m.2.Each p) : (Json.obj ms).Each p := by
  intro w hw
  cases hw with
  | self => exact h
  | member hm hw => exact hms _ hm w hw

theorem ofText {x : Text} (h : p (.ofText x)) : (Json.ofText x).Each p := by
  cases x <;> rintro w ⟨⟩ <;> exact h

@[simp] theorem str_iff {s : String} : (Json.str s).Each p ↔ p (.str s) := ⟨self, ofText (x := .whole s)⟩

@[simp] theorem int_iff {n : Int} : (Json.int n).Each p ↔ p (.int n) := by
  refine ⟨self, ?_⟩
  rintro h w ⟨⟩
  exact h

@[simp] theorem arr_iff {vs : List Json} : (Json.arr vs).Each p ↔ p (.arr vs) ∧ ∀ v ∈ vs, v.Each p :=
  ⟨fun h ↦ ⟨h.self, fun _ hv ↦ h.item hv⟩, fun h ↦ .arr h.1 h.2⟩

@[simp] theorem obj_iff {ms : List (Text × Json)} : (Json.obj ms).Each p ↔ p (.obj ms) ∧ ∀ m ∈ ms, m.2.Each p :=
  ⟨fun h ↦ ⟨h.self, fun _ hm ↦ h.member hm⟩, fun h ↦ .obj h.1 h.2⟩

end Each

/-! A property that can be decided of values can be decided of all that they are made of. -/

section

variable (p : Json → Bool)

mutual

def all : Json → Bool
  | .arr vs => p (.arr vs) && allItems vs
  | .obj ms => p (.obj ms) && allMembers ms
  | v => p v

def allItems : List Json → Bool
  | [] => true
  | v :: vs => all v && allItems vs

def allMembers : List (Text × Json) → Bool
  | [] => true
  | (_, v) :: ms => all v && allMembers ms

end

variable {p}

mutual

theorem all_iff : ∀ v : Json, all p v = true ↔ v.Each (p · = true)
  | .arr vs => by rw [all, Bool.and_eq_true, allItems_iff vs, Each.arr_iff]
  | .obj ms => by rw [all, Bool.and_eq_true, allMembers_iff ms, Each.obj_iff]
  | .null => ⟨by rintro h w ⟨⟩; exact h, Each.self⟩
  | .bool _ => ⟨by rintro h w ⟨⟩; exact h, Each.self⟩
  | .int _ => ⟨by rintro h w ⟨⟩; exact h, Each.self⟩
  | .float _ => ⟨by rintro h w ⟨⟩; exact h, Each.self⟩
  | .str _ => ⟨by rintro h w ⟨⟩; exact h, Each.self⟩
  | .ragged _ => ⟨by rintro h w ⟨⟩; exact h, Each.self⟩

theorem allItems_iff : ∀ vs : List Json, allItems p vs = true ↔ ∀ v ∈ vs, v.Each (p · = true)
  | [] => iff_of_true rfl fun _ hv ↦ absurd hv List.not_mem_nil
  | v :: vs => by rw [allItems, Bool.and_eq_true, List.forall_mem_cons, all_iff v, allItems_iff vs]

theorem allMembers_iff : ∀ ms : List (Text × Json), allMembers p ms = true ↔ ∀ m ∈ ms, m.2.Each (p · = true)
  | [] => iff_of_true rfl fun _ hm ↦ absurd hm List.not_mem_nil
  | (_, v) :: ms => by rw [allMembers, Bool.and_eq_true, List.forall_mem_cons, all_iff v, allMembers_iff ms]

end

end

instance {p : Json → Prop} [DecidablePred p] (v : Json) : Decidable (v.Each p) :=
  decidable_of_iff (v.all (p ·) = true) ((all_iff v).trans
    ⟨fun h w hw ↦ of_decide_eq_true (h w hw), fun h w hw ↦ decide_eq_true (h w hw)⟩)

/-- A value that is neither a float nor a text with halves of characters, and that has no such text for a key. -/
def IsExact : Json → Prop
  | .float _ => False
  | .ragged _ => False
  | .obj ms => ∀ m ∈ ms, ∃ s, m.1 = .whole s
  | _ => True

/-- A value that is no float. -/
def IsFloatFree : Json → Prop
  | .float _ => False
  | _ => True

instance : DecidablePred IsFloatFree
  | .float _ => .isFalse id
  | .null | .bool _ | .int _ | .str _ | .ragged _ | .arr _ | .obj _ => .isTrue trivial

theorem isFloatFree_of_isExact : ∀ v : Json, v.IsExact → v.IsFloatFree
  | .float _, h => h
  | .ragged _, _ => trivial
  | .null, _ => trivial
  | .bool _, _ => trivial
  | .int _, _ => trivial
  | .str _, _ => trivial
  | .arr _, _ => trivial
  | .obj _, _ => trivial

end ClusterMatrix.Json

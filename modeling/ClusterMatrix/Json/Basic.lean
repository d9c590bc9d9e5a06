import ClusterMatrix.Text.Basic

/-!
# JSON values

Integers have any size and are apart from binary64 numbers. A text is a string, or ragged, and so is a key. An object
remembers the order in which its keys first came; of several values for one key the last one counts.
-/

namespace ClusterMatrix

inductive Json where
  | null
  | bool (b : Bool)
  | int (n : Int)
  | float (x : Float)
  | str (s : String)
  | ragged (r : Text.Ragged)
  | arr (items : List Json)
  | obj (members : List (Text × Json))
deriving Inhabited

namespace Json

/-! ## Equality -/

mutual

def beq : Json → Json → Bool
  | .null, .null => true
  | .bool a, .bool b => a == b
  | .int a, .int b => a == b
  | .float a, .float b => decide (a = b)
  | .str a, .str b => a == b
  | .ragged a, .ragged b => a == b
  | .arr a, .arr b => beqItems a b
  | .obj a, .obj b => beqMembers a b
  | _, _ => false

def beqItems : List Json → List Json → Bool
  | [], [] => true
  | a :: as, b :: bs => beq a b && beqItems as bs
  | _, _ => false

def beqMembers : List (Text × Json) → List (Text × Json) → Bool
  | [], [] => true
  | (k, a) :: as, (l, b) :: bs => k == l && beq a b && beqMembers as bs
  | _, _ => false

end

mutual

theorem beq_iff : ∀ a b : Json, beq a b = true ↔ a = b
  | .null, b => by cases b <;> simp [beq]
  | .bool _, b => by cases b <;> simp [beq]
  | .int _, b => by cases b <;> simp [beq]
  | .float _, b => by cases b <;> simp [beq]
  | .str _, b => by cases b <;> simp [beq]
  | .ragged _, b => by cases b <;> simp [beq]
  | .arr a, b => by cases b <;> simp [beq, beqItems_iff a]
  | .obj a, b => by cases b <;> simp [beq, beqMembers_iff a]

theorem beqItems_iff : ∀ a b : List Json, beqItems a b = true ↔ a = b
  | [], b => by cases b <;> simp [beqItems]
  | a :: as, b => by cases b <;> simp [beqItems, beq_iff a, beqItems_iff as]

theorem beqMembers_iff : ∀ a b : List (Text × Json), beqMembers a b = true ↔ a = b
  | [], b => by cases b <;> simp [beqMembers]
  | (k, a) :: as, b => by
    cases b <;> simp [beqMembers, beq_iff a, beqMembers_iff as, Prod.ext_iff, and_assoc]

end

/-- Values are equal if they are written alike: a float is told apart by its bits. -/
instance : DecidableEq Json := fun a b ↦ decidable_of_iff _ (beq_iff a b)

/-! ## Objects -/

/-- Gives a key its value: a new key goes to the end, and a known one keeps its place. -/
def put (k : Text) (v : Json) : List (Text × Json) → List (Text × Json)
  | [] => [(k, v)]
  | (k', v') :: ms => if k' = k then (k, v) :: ms else (k', v') :: put k v ms

@[simp] theorem put_nil (k : Text) (v : Json) : put k v [] = [(k, v)] := rfl

theorem put_of_not_mem {k : Text} (v : Json) {ms : List (Text × Json)}
    (h : k ∉ ms.map Prod.fst) : put k v ms = ms ++ [(k, v)] := by
  induction ms with
  | nil => rfl
  | cons m ms ih =>
    obtain ⟨k', v'⟩ := m
    simp only [List.map_cons, List.mem_cons, not_or] at h
    simp [put, Ne.symm h.1, ih h.2]

/-- The members of an object written with the given pairs. -/
def membersOf (pairs : List (Text × Json)) : List (Text × Json) :=
  pairs.foldl (fun ms p ↦ put p.1 p.2 ms) []

/-- The value under a key, for an object. -/
def get? (k : Text) : Json → Option Json
  | .obj ms => ms.lookup k
  | _ => none

/-! Members can be given with strings for their keys. -/

/-- The member whose key is a string. -/
def memberOf (m : String × Json) : Text × Json := (.whole m.1, m.2)

instance : Coe (String × Json) (Text × Json) := ⟨memberOf⟩

instance : Coe (List (String × Json)) (List (Text × Json)) := ⟨List.map memberOf⟩

instance : HAppend (List (String × Json)) (List (Text × Json)) (List (Text × Json)) :=
  ⟨fun ms ns ↦ List.append (ms.map memberOf) ns⟩

@[default_instance low]
instance : HAppend (List (String × Json)) (List (String × Json)) (List (Text × Json)) :=
  ⟨fun ms ns ↦ List.append (ms.map memberOf) (ns.map memberOf)⟩

def isNull : Json → Bool
  | .null => true
  | _ => false

/-! ## Texts -/

def ofText : Text → Json
  | .whole s => .str s
  | .ragged r => .ragged r

def toText? : Json → Option Text
  | .str s => some (.whole s)
  | .ragged r => some (.ragged r)
  | _ => none

@[simp] theorem ofText_whole (s : String) : ofText (.whole s) = .str s := rfl

@[simp] theorem ofText_ragged (r : Text.Ragged) : ofText (.ragged r) = .ragged r := rfl

theorem toText?_eq_some_iff {v : Json} {t : Text} : v.toText? = some t ↔ v = ofText t := by
  cases t <;> cases v <;> simp [toText?]

@[simp] theorem toText?_ofText (t : Text) : (ofText t).toText? = some t := toText?_eq_some_iff.2 rfl

@[simp] theorem ofText_inj {t u : Text} : ofText t = ofText u ↔ t = u := by
  rw [← toText?_eq_some_iff, toText?_ofText, Option.some.injEq]

/-- The text of some code points. -/
def ofCodes (codes : List Nat) : Json := ofText (.ofCodes codes)

/-- The characters of a text, as they are shown. -/
def text? : Json → Option (List Char)
  | .str s => some s.toList
  | .ragged r => some r.shown
  | _ => none

end Json

end ClusterMatrix

import ClusterMatrix.Json.Compact

/-!
# One-line JSON is one line

The one-line text of a value is made of the printable ASCII characters alone: words, numbers and brackets are, and
all else that stands in a string is escaped. So it holds no line end.
-/

namespace ClusterMatrix

open Json (isPlain)

theorem Json.isPlain_of_isDigit {c : Char} (h : c.isDigit = true) : isPlain c = true := by
  simp only [Char.isDigit, ge_iff_le, Bool.and_eq_true, decide_eq_true_eq, UInt32.le_iff_toNat_le] at h
  simp only [isPlain, Bool.and_eq_true, decide_eq_true_eq, Char.le_def, UInt32.le_iff_toNat_le]
  have h0 : '0'.val.toNat = 48 := rfl
  have h9 : '9'.val.toNat = 57 := rfl
  have hs : ' '.val.toNat = 32 := rfl
  have ht : '~'.val.toNat = 126 := rfl
  omega

theorem Json.isPlain_of_mem_toDigits {n : Nat} : ∀ c ∈ Nat.toDigits 10 n, isPlain c = true :=
  fun _ hc ↦ isPlain_of_isDigit (Nat.isDigit_of_mem_toDigits (by decide) (by decide) hc)

/-! ## Numbers -/

namespace Decimal

theorem isPlain_of_mem_replicate {n : Nat} : ∀ c ∈ List.replicate n '0', isPlain c = true := by
  intro c hc
  rw [List.eq_of_mem_replicate hc]
  rfl

theorem isPlain_of_mem_positional {ds : List Char} (h : ∀ c ∈ ds, isPlain c = true) (e : Int) :
    ∀ c ∈ positional ds e, isPlain c = true := by
  rw [positional]
  split
  · simp only [List.cons_append, List.forall_mem_cons, List.forall_mem_append]
    exact ⟨rfl, rfl, isPlain_of_mem_replicate, h⟩
  · dsimp only
    split
    · simp only [List.forall_mem_append, List.forall_mem_cons]
      exact ⟨⟨h, isPlain_of_mem_replicate⟩, rfl, rfl, fun _ hc ↦ absurd hc List.not_mem_nil⟩
    · simp only [List.forall_mem_append, List.forall_mem_cons]
      exact ⟨fun c hc ↦ h c (List.mem_of_mem_take hc), rfl, fun c hc ↦ h c (List.mem_of_mem_drop hc)⟩

theorem isPlain_of_mem_scientific {ds : List Char} (h : ∀ c ∈ ds, isPlain c = true) (e : Int) :
    ∀ c ∈ scientific ds e, isPlain c = true := by
  unfold scientific
  simp only [List.forall_mem_append, List.forall_mem_cons]
  refine ⟨⟨?_, rfl, ?_, isPlain_of_mem_replicate⟩, Json.isPlain_of_mem_toDigits⟩
  · split
    · simp only [List.forall_mem_cons] at h ⊢
      exact ⟨h.1, rfl, h.2⟩
    · exact h
  · split <;> rfl

theorem Scaled.isPlain_of_mem_text (d : Scaled) : ∀ c ∈ d.text, isPlain c = true := by
  rw [Scaled.text]
  split
  · exact isPlain_of_mem_positional Json.isPlain_of_mem_toDigits _
  · exact isPlain_of_mem_scientific Json.isPlain_of_mem_toDigits _

theorem isPlain_of_mem_sizeText (b : UInt64) : ∀ c ∈ sizeText b, isPlain c = true := by
  rw [sizeText]
  split
  · exact List.all_eq_true.1 rfl
  · exact Scaled.isPlain_of_mem_text _

/-- The text of a binary64 value is plain if the words of its format are. -/
theorem isPlain_of_mem_floatText {w : Words} (hn : ∀ c ∈ w.notANumber.toList, isPlain c = true)
    (hi : ∀ c ∈ w.infinity.toList, isPlain c = true) (x : Float) :
    ∀ c ∈ floatText w x, isPlain c = true := by
  rw [floatText]
  split
  · exact hn
  · dsimp only
    rw [List.forall_mem_append]
    constructor
    · split
      · exact List.all_eq_true.1 rfl
      · exact List.all_eq_true.1 rfl
    · split
      · exact hi
      · exact isPlain_of_mem_sizeText _

end Decimal

namespace Json

theorem isPlain_of_mem_intText (n : Int) : ∀ c ∈ intText n, isPlain c = true := by
  rw [intText]
  split
  · rw [List.forall_mem_cons]
    exact ⟨rfl, isPlain_of_mem_toDigits⟩
  · exact isPlain_of_mem_toDigits

/-! ## Strings -/

theorem isPlain_digitChar : ∀ d < 16, isPlain (Nat.digitChar d) = true := by decide

theorem isPlain_of_mem_hexDigits (w n : Nat) : ∀ c ∈ Text.hexDigits w n, isPlain c = true := by
  induction w generalizing n with
  | zero => exact fun _ hc ↦ absurd hc List.not_mem_nil
  | succ w ih =>
    rw [Text.hexDigits, List.forall_mem_append]
    refine ⟨ih (n / 16), fun c hc ↦ ?_⟩
    rw [List.mem_singleton.1 hc]
    exact isPlain_digitChar (n % 16) (Nat.mod_lt n (by decide))

theorem isPlain_of_mem_unitEscape (n : Nat) : ∀ c ∈ unitEscape n, isPlain c = true := by
  rw [unitEscape, List.forall_mem_cons, List.forall_mem_cons]
  exact ⟨rfl, rfl, isPlain_of_mem_hexDigits 4 n⟩

/-- A letter of a short escape is plain. -/
theorem isPlain_of_shortEscape? {c l : Char} (h : shortEscape? c = some l) : isPlain l = true := by
  unfold shortEscape? at h
  split at h <;> cases h <;> rfl

theorem isPlain_of_mem_compactChar (c : Char) : ∀ d ∈ compactChar c, isPlain d = true := by
  rw [compactChar]
  split
  · rename_i l hl
    rw [List.forall_mem_cons, List.forall_mem_singleton]
    exact ⟨rfl, isPlain_of_shortEscape? hl⟩
  · split
    · rename_i hp
      rwa [List.forall_mem_singleton]
    · intro d hd
      obtain ⟨n, -, hd⟩ := List.mem_flatMap.1 hd
      exact isPlain_of_mem_unitEscape n d hd

theorem isPlain_of_mem_compactCode (n : Nat) : ∀ d ∈ compactCode n, isPlain d = true := by
  rw [compactCode]
  split
  · exact isPlain_of_mem_unitEscape n
  · exact isPlain_of_mem_compactChar _

theorem isPlain_of_mem_compactText (t : Text) : ∀ d ∈ compactText t, isPlain d = true := by
  rw [compactText, List.cons_append, List.forall_mem_cons, List.forall_mem_append, List.forall_mem_singleton]
  refine ⟨rfl, fun d hd ↦ ?_, rfl⟩
  obtain ⟨n, -, hd⟩ := List.mem_flatMap.1 hd
  exact isPlain_of_mem_compactCode n d hd

/-! ## Values -/

mutual

/-- The one-line text of a value is printable ASCII. -/
theorem isPlain_of_mem_compact : ∀ v : Json, ∀ c ∈ compact v, isPlain c = true
  | .null => by
    rw [compact]
    exact List.all_eq_true.1 rfl
  | .bool true => by
    rw [compact]
    exact List.all_eq_true.1 rfl
  | .bool false => by
    rw [compact]
    exact List.all_eq_true.1 rfl
  | .int n => by
    rw [compact]
    exact isPlain_of_mem_intText n
  | .float x => by
    rw [compact]
    exact Decimal.isPlain_of_mem_floatText (List.all_eq_true.1 rfl) (List.all_eq_true.1 rfl) x
  | .str s => by
    rw [compact]
    exact isPlain_of_mem_compactText s
  | .ragged r => by
    rw [compact]
    exact isPlain_of_mem_compactText (.ragged r)
  | .arr [] => by
    rw [compact]
    exact List.all_eq_true.1 rfl
  | .arr (v :: vs) => by
    rw [compact, List.cons_append, List.forall_mem_cons, List.forall_mem_append]
    exact ⟨rfl, isPlain_of_mem_compact v, isPlain_of_mem_compactItems vs⟩
  | .obj [] => by
    rw [compact]
    exact List.all_eq_true.1 rfl
  | .obj ((k, v) :: ms) => by
    rw [compact]
    simp only [List.cons_append, List.forall_mem_cons, List.forall_mem_append]
    exact ⟨rfl, ⟨isPlain_of_mem_compactText k, rfl, rfl, isPlain_of_mem_compact v⟩,
      isPlain_of_mem_compactMembers ms⟩

theorem isPlain_of_mem_compactItems : ∀ vs : List Json, ∀ c ∈ compactItems vs, isPlain c = true
  | [] => by
    rw [compactItems]
    exact List.all_eq_true.1 rfl
  | v :: vs => by
    rw [compactItems]
    simp only [List.cons_append, List.forall_mem_cons, List.forall_mem_append]
    exact ⟨rfl, rfl, isPlain_of_mem_compact v, isPlain_of_mem_compactItems vs⟩

theorem isPlain_of_mem_compactMembers : ∀ ms : List (Text × Json), ∀ c ∈ compactMembers ms, isPlain c = true
  | [] => by
    rw [compactMembers]
    exact List.all_eq_true.1 rfl
  | (k, v) :: ms => by
    rw [compactMembers]
    simp only [List.cons_append, List.forall_mem_cons, List.forall_mem_append]
    exact ⟨rfl, rfl, ⟨isPlain_of_mem_compactText k, rfl, rfl, isPlain_of_mem_compact v⟩,
      isPlain_of_mem_compactMembers ms⟩

end

/-- The one-line text of a value holds no line feed. -/
theorem newline_not_mem_compact (v : Json) : '\n' ∉ v.compact := fun h ↦
  absurd (isPlain_of_mem_compact v '\n' h) (by decide)

/-- The text of an array begins with its bracket. -/
theorem head?_compact_arr (vs : List Json) : (Json.arr vs).compact.head? = some '[' := by
  cases vs with
  | nil => rw [compact, List.head?_cons]
  | cons v vs => rw [compact, List.cons_append, List.head?_cons]

end Json

end ClusterMatrix

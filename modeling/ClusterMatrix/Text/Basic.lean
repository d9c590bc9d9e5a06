import ClusterMatrix.Text.Ragged

/-!
# Texts

A text is a string, or ragged. It is known by its code points, and texts are ordered by them.
-/

namespace ClusterMatrix

inductive Text where
  | whole (s : String)
  | ragged (r : Text.Ragged)
deriving DecidableEq, Repr

namespace Text

/-- The code points of characters. -/
def codesOf (s : List Char) : List Nat := s.map Char.toNat

def codes : Text → List Nat
  | .whole s => codesOf s.toList
  | .ragged r => r.codes

/-- The text of some code points. -/
def ofCodes (codes : List Nat) : Text :=
  if h : areRagged codes then .ragged ⟨codes, h⟩ else .whole (String.ofList (codes.map Char.ofNat))

/-- The text as a string, where a replacement character stands for each half. -/
def shown : Text → String
  | .whole s => s
  | .ragged r => String.ofList r.shown

/-- Texts one behind the other. No low unit may follow a high one where two of them meet. -/
def concat (texts : List Text) : Text := .ofCodes (texts.flatMap codes)

/-! ## Strings for texts -/

instance : Coe String Text := ⟨.whole⟩

instance : Coe (List String) (List Text) := ⟨List.map .whole⟩

/-- Where a string is asked for, a text is shown. This is for programs around the library, which answer with strings;
nothing in the library itself relies on it. -/
instance : Coe Text String := ⟨shown⟩

instance : Coe (List Text) (List String) := ⟨List.map shown⟩

/-! ## Halves -/

theorem isHighUnit_iff {n : Nat} : isHighUnit n = true ↔ 0xD800 ≤ n ∧ n < 0xDC00 := by
  rw [isHighUnit, Bool.and_eq_true, decide_eq_true_iff, decide_eq_true_iff]

theorem isLowUnit_iff {n : Nat} : isLowUnit n = true ↔ 0xDC00 ≤ n ∧ n < 0xE000 := by
  rw [isLowUnit, Bool.and_eq_true, decide_eq_true_iff, decide_eq_true_iff]

theorem isHalf_iff {n : Nat} : isHalf n = true ↔ 0xD800 ≤ n ∧ n < 0xE000 := by
  rw [isHalf, Bool.or_eq_true, isHighUnit_iff, isLowUnit_iff]
  omega

/-- A character is no half of one. -/
theorem toNat_cases (c : Char) : c.toNat < 0xD800 ∨ 0xDFFF < c.toNat ∧ c.toNat < 0x110000 := c.valid

theorem isHalf_toNat (c : Char) : isHalf c.toNat = false := by
  rw [← Bool.not_eq_true, isHalf_iff]
  have h := toNat_cases c
  omega

theorem isHighUnit_toNat (c : Char) : isHighUnit c.toNat = false := by
  rw [← Bool.not_eq_true, isHighUnit_iff]
  have h := toNat_cases c
  omega

theorem isLowUnit_toNat (c : Char) : isLowUnit c.toNat = false := by
  rw [← Bool.not_eq_true, isLowUnit_iff]
  have h := toNat_cases c
  omega

/-- A high unit is no low one. -/
theorem isLowUnit_of_isHighUnit {n : Nat} (h : isHighUnit n = true) : isLowUnit n = false := by
  rw [isHighUnit_iff] at h
  rw [← Bool.not_eq_true, isLowUnit_iff]
  omega

theorem toNat_ofNat_of_isValidChar {n : Nat} (h : n.isValidChar) : (Char.ofNat n).toNat = n := by
  rw [Char.ofNat, dif_pos h]
  rfl

theorem shownCode_toNat (c : Char) : shownCode c.toNat = c := by
  rw [shownCode, if_neg (Bool.eq_false_iff.1 (isHalf_toNat c)), Char.ofNat_toNat]

/-- A pair stands in front, or further behind. -/
theorem hasPair_cons (n : Nat) (ns : List Nat) :
    hasPair (n :: ns) = (isHighUnit n && ns.head?.any isLowUnit || hasPair ns) := by
  cases ns with
  | nil => simp [hasPair]
  | cons m ns => rfl

/-! ## Code points of characters -/

@[simp] theorem codesOf_nil : codesOf [] = [] := rfl

@[simp] theorem codesOf_cons (c : Char) (s : List Char) : codesOf (c :: s) = c.toNat :: codesOf s := rfl

@[simp] theorem codesOf_append (s t : List Char) : codesOf (s ++ t) = codesOf s ++ codesOf t := List.map_append

/-- Characters are shown as they are. -/
@[simp] theorem map_shownCode_codesOf (s : List Char) : (codesOf s).map shownCode = s := by
  rw [codesOf, List.map_map]
  exact List.map_id'' shownCode_toNat s

theorem hasPair_codesOf (s : List Char) : hasPair (codesOf s) = false := by
  induction s with
  | nil => rfl
  | cons c s ih => rw [codesOf_cons, hasPair_cons, isHighUnit_toNat, Bool.false_and, Bool.false_or, ih]

theorem hasPair_codesOf_append (s : List Char) (ns : List Nat) : hasPair (codesOf s ++ ns) = hasPair ns := by
  induction s with
  | nil => rfl
  | cons c s ih =>
    rw [codesOf_cons, List.cons_append, hasPair_cons, isHighUnit_toNat, Bool.false_and, Bool.false_or, ih]

/-- No pair reaches over a character. -/
theorem hasPair_append_cons (ns : List Nat) (c : Char) (ms : List Nat) :
    hasPair (ns ++ c.toNat :: ms) = (hasPair ns || hasPair ms) := by
  induction ns with
  | nil =>
    rw [List.nil_append, hasPair_cons, isHighUnit_toNat, Bool.false_and]
    rfl
  | cons n ns ih =>
    have hnext : (ns ++ c.toNat :: ms).head?.any isLowUnit = ns.head?.any isLowUnit := by
      cases ns with
      | cons m ns => rfl
      | nil => exact isLowUnit_toNat c
    rw [List.cons_append, hasPair_cons, hasPair_cons, ih, hnext, Bool.or_assoc]

theorem hasPair_append_codesOf (ns : List Nat) (s : List Char) : hasPair (ns ++ codesOf s) = hasPair ns := by
  cases s with
  | nil => rw [codesOf_nil, List.append_nil]
  | cons c s => rw [codesOf_cons, hasPair_append_cons, hasPair_codesOf, Bool.or_false]

/-- Characters alone are never ragged. -/
theorem areRagged_codesOf (s : List Char) : areRagged (codesOf s) = false := by
  have hany : (codesOf s).any isHalf = false := by
    rw [codesOf, List.any_map, List.any_eq_false]
    intro c _
    rw [Function.comp_apply, isHalf_toNat]
    exact Bool.false_ne_true
  rw [areRagged, hany, Bool.false_and, Bool.false_and]

/-! ## Texts by their code points -/

theorem ofCodes_codesOf (s : List Char) : ofCodes (codesOf s) = .whole (String.ofList s) := by
  have hchars : (codesOf s).map Char.ofNat = s := by
    rw [codesOf, List.map_map]
    exact List.map_id'' Char.ofNat_toNat s
  rw [ofCodes, dif_neg (Bool.eq_false_iff.1 (areRagged_codesOf s)), hchars]

@[simp] theorem ofCodes_codes (t : Text) : ofCodes t.codes = t := by
  cases t with
  | whole s => rw [codes, ofCodes_codesOf, String.ofList_toList]
  | ragged r => rw [codes, ofCodes, dif_pos r.areRagged]

theorem codes_inj {t u : Text} : t.codes = u.codes ↔ t = u := by
  refine ⟨fun h ↦ ?_, congrArg codes⟩
  rw [← ofCodes_codes t, h, ofCodes_codes]

/-- The pairs of a text are whole. -/
theorem hasPair_codes (t : Text) : hasPair t.codes = false := by
  cases t with
  | whole s => exact hasPair_codesOf s.toList
  | ragged r =>
    have hr := r.areRagged
    rw [Text.areRagged, Bool.and_eq_true, Bool.not_eq_true'] at hr
    exact hr.2

/-- A code point of a text is a half, or that of a character. -/
theorem isHalf_or_isValidChar_of_mem {t : Text} {n : Nat} (h : n ∈ t.codes) :
    isHalf n = true ∨ n.isValidChar := by
  cases t with
  | whole s =>
    obtain ⟨c, -, rfl⟩ := List.mem_map.1 h
    exact .inr c.valid
  | ragged r =>
    have hr := r.areRagged
    rw [Text.areRagged, Bool.and_eq_true, Bool.and_eq_true] at hr
    have hn := List.all_eq_true.1 hr.1.2 n h
    rwa [Bool.or_eq_true, decide_eq_true_iff] at hn

/-- Halves and characters in which no pair is torn are the code points of their text. -/
theorem codes_ofCodes {codes : List Nat} (h : ∀ n ∈ codes, isHalf n = true ∨ n.isValidChar)
    (hp : hasPair codes = false) : (ofCodes codes).codes = codes := by
  rw [ofCodes]
  split
  · rfl
  · rename_i hr
    have hall : codes.all (fun n ↦ isHalf n || n.isValidChar) = true := by
      rw [List.all_eq_true]
      intro n hn
      rw [Bool.or_eq_true, decide_eq_true_iff]
      exact h n hn
    rw [areRagged, hall, hp, Bool.and_true, Bool.not_false, Bool.and_true, Bool.not_eq_true, List.any_eq_false] at hr
    change codesOf (String.ofList (codes.map Char.ofNat)).toList = codes
    have hsame : codes.map (Char.toNat ∘ Char.ofNat) = codes.map id :=
      List.map_congr_left fun n hn ↦ toNat_ofNat_of_isValidChar ((h n hn).resolve_left (hr n hn))
    rw [String.toList_ofList, codesOf, List.map_map, hsame, List.map_id]

theorem codes_concat {texts : List Text} (h : hasPair (texts.flatMap codes) = false) :
    (concat texts).codes = texts.flatMap codes := by
  refine codes_ofCodes (fun n hn ↦ ?_) h
  obtain ⟨t, -, hn⟩ := List.mem_flatMap.1 hn
  exact isHalf_or_isValidChar_of_mem hn

/-- A text can be told from between two strings. -/
theorem concat_between_inj {before after : String} {t u : Text} :
    concat [before, t, after] = concat [before, u, after] ↔ t = u := by
  have hcodes : ∀ x : Text, (concat [before, x, after]).codes =
      codesOf before.toList ++ (x.codes ++ codesOf after.toList) := by
    intro x
    have hflat : [.whole before, x, .whole after].flatMap codes =
        codesOf before.toList ++ (x.codes ++ codesOf after.toList) := by
      simp [codes]
    rw [← hflat]
    apply codes_concat
    rw [hflat, hasPair_codesOf_append, hasPair_append_codesOf, hasPair_codes]
  rw [← codes_inj, hcodes, hcodes, List.append_cancel_left_eq, List.append_cancel_right_eq, codes_inj]

/-! ## Order -/

instance : LT Text := ⟨fun t u ↦ t.codes < u.codes⟩

instance (t u : Text) : Decidable (t < u) := inferInstanceAs (Decidable (t.codes < u.codes))

theorem lt_irrefl (t : Text) : ¬ t < t := List.lt_irrefl t.codes

theorem lt_trans {t u v : Text} (h : t < u) (h' : u < v) : t < v := List.lt_trans h h'

theorem eq_of_not_lt {t u : Text} (h : ¬ t < u) (h' : ¬ u < t) : t = u :=
  codes_inj.1 (List.le_antisymm (List.not_lt.1 h') (List.not_lt.1 h))

end Text

end ClusterMatrix

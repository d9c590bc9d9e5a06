import ClusterMatrix.Proofs.Json.Documents

/-!
# Texts that are printed

The indented text of a value keeps the halves of characters that stand alone in it, and joins none of them. So it is a
text, and it can be decoded. That of an exact value holds no halves: it is a string.
-/

namespace ClusterMatrix

namespace Text

/-- The code points are those of a text. -/
def AreCodes (ns : List Nat) : Prop := ∃ t : Text, t.codes = ns

/-- The code points are those of characters: no half stands among them. -/
def AreWhole (ns : List Nat) : Prop := ∃ s : List Char, codesOf s = ns

/-- What holds of all characters, and passes from the code points on both sides of a character to all of them. -/
structure IsJoined (p : List Nat → Prop) : Prop where
  chars : ∀ s, p (codesOf s)
  join : ∀ {ns ms : List Nat}, p ns → p ms → ∀ c s, p (ns ++ (codesOf (c :: s) ++ ms))

namespace IsJoined

variable {p : List Nat → Prop} {ns ms : List Nat}

theorem behind (hp : IsJoined p) (h : p ms) (c : Char) (s : List Char) : p (codesOf (c :: s) ++ ms) :=
  hp.join (hp.chars []) h c s

theorem before (hp : IsJoined p) (h : p ns) (c : Char) (s : List Char) : p (ns ++ codesOf (c :: s)) := by
  have hj := hp.join h (hp.chars []) c s
  rwa [codesOf_nil, List.append_nil] at hj

end IsJoined

theorem isJoined_areWhole : IsJoined AreWhole where
  chars s := ⟨s, rfl⟩
  join := by
    rintro _ _ ⟨s, rfl⟩ ⟨t, rfl⟩ c u
    exact ⟨s ++ (c :: u ++ t), by rw [codesOf_append, codesOf_append]⟩

theorem areCodes_codesOf (s : List Char) : AreCodes (codesOf s) :=
  ⟨.whole (String.ofList s), by rw [codes, String.toList_ofList]⟩

theorem isJoined_areCodes : IsJoined AreCodes where
  chars := areCodes_codesOf
  join := by
    rintro _ _ ⟨t, rfl⟩ ⟨u, rfl⟩ c s
    refine ⟨.ofCodes _, codes_ofCodes (fun n hn ↦ ?_) ?_⟩
    · rcases List.mem_append.1 hn with hn | hn
      · exact isHalf_or_isValidChar_of_mem hn
      · rcases List.mem_append.1 hn with hn | hn
        · obtain ⟨c, -, rfl⟩ := List.mem_map.1 hn
          exact .inr c.valid
        · exact isHalf_or_isValidChar_of_mem hn
    · rw [codesOf_cons, List.cons_append, hasPair_append_cons, hasPair_codesOf_append, hasPair_codes, hasPair_codes,
        Bool.or_false]

end Text

namespace Json

open Text (AreCodes AreWhole IsJoined codesOf)

/-! ## What is joined in an indented text -/

/-- The property holds of a value that is a text, and of the keys of an object. -/
def HoldsTexts (q : Text → Prop) : Json → Prop
  | .str s => q (.whole s)
  | .ragged r => q (.ragged r)
  | .obj ms => ∀ m ∈ ms, q m.1
  | _ => True

section

variable {p : List Nat → Prop} {q : Text → Prop}

mutual

/-- What passes over characters holds of an indented text, if it holds of the texts in the value. -/
theorem indented_of_isJoined (hp : IsJoined p) (hq : ∀ t, q t → p (indentedText t)) (depth : Nat) :
    ∀ {v : Json}, v.Each (HoldsTexts q) → p (v.indented depth)
  | .null, _ => hp.chars _
  | .bool _, _ => hp.chars _
  | .int _, _ => hp.chars _
  | .float _, _ => hp.chars _
  | .str _, h => hq _ h.self
  | .ragged _, h => hq _ h.self
  | .arr [], _ => hp.chars _
  | .arr (v :: _), h => by
    have hv := indented_of_isJoined hp hq (depth + 1) (h.item List.mem_cons_self)
    exact indentedItems_of_isJoined hp hq depth (hp.behind hv _ _) fun w hw ↦ h.item (List.mem_cons_of_mem v hw)
  | .obj [], _ => hp.chars _
  | .obj ((k, v) :: _), h => by
    have hk := hq k (h.self (k, v) List.mem_cons_self)
    have hv := indented_of_isJoined hp hq (depth + 1) (h.member List.mem_cons_self)
    have hm := hp.join (hp.behind hk '{' (newLine (depth + 1))) hv ':' [' ']
    rw [← List.append_assoc] at hm
    exact indentedMembers_of_isJoined hp hq depth hm (fun m hm ↦ h.self m (List.mem_cons_of_mem _ hm))
      fun m hm ↦ h.member (List.mem_cons_of_mem _ hm)

theorem indentedItems_of_isJoined (hp : IsJoined p) (hq : ∀ t, q t → p (indentedText t)) (depth : Nat) :
    ∀ {vs : List Json} {ns : List Nat}, p ns → (∀ v ∈ vs, v.Each (HoldsTexts q)) → p (ns ++ indentedItems depth vs)
  | [], _, hn, _ => hp.before hn _ _
  | v :: vs, ns, hn, h => by
    have hv := indented_of_isJoined hp hq (depth + 1) (h v List.mem_cons_self)
    have hvs := indentedItems_of_isJoined hp hq depth (hp.join hn hv ',' (newLine (depth + 1)))
      fun w hw ↦ h w (List.mem_cons_of_mem v hw)
    rwa [List.append_assoc] at hvs

theorem indentedMembers_of_isJoined (hp : IsJoined p) (hq : ∀ t, q t → p (indentedText t)) (depth : Nat) :
    ∀ {ms : List (Text × Json)} {ns : List Nat}, p ns → (∀ m ∈ ms, q m.1) → (∀ m ∈ ms, m.2.Each (HoldsTexts q)) →
      p (ns ++ indentedMembers depth ms)
  | [], _, hn, _, _ => hp.before hn _ _
  | (k, v) :: ms, ns, hn, hk, h => by
    have hv := indented_of_isJoined hp hq (depth + 1) (h _ List.mem_cons_self)
    have hm := hp.join (hp.join hn (hq k (hk _ List.mem_cons_self)) ',' (newLine (depth + 1))) hv ':' [' ']
    have hms := indentedMembers_of_isJoined hp hq depth hm (fun m hm ↦ hk m (List.mem_cons_of_mem _ hm))
      fun m hm ↦ h m (List.mem_cons_of_mem _ hm)
    simpa only [indentedMembers, List.append_assoc] using hms

end

end

/-! ## Texts -/

theorem indentedCode_of_not_isHalf {n : Nat} (h : ¬ Text.isHalf n = true) :
    ∃ c s, indentedCode n = codesOf (c :: s) := by
  rw [indentedCode, if_neg h]
  cases hs : indentedChar (Char.ofNat n) with
  | cons c s => exact ⟨c, s, rfl⟩
  | nil =>
    rw [indentedChar] at hs
    split at hs
    · cases hs
    · split at hs <;> cases hs

/-- A low unit is written first just if one comes first. -/
theorem beginsLow_flatMap_indentedCode (ns : List Nat) :
    (ns.flatMap indentedCode).head?.any Text.isLowUnit = ns.head?.any Text.isLowUnit := by
  cases ns with
  | nil => rfl
  | cons n ns =>
    by_cases hn : Text.isHalf n = true
    · rw [List.flatMap_cons, indentedCode, if_pos hn]
      rfl
    · obtain ⟨c, s, hc⟩ := indentedCode_of_not_isHalf hn
      rw [Text.isHalf, Bool.or_eq_true, not_or, Bool.not_eq_true, Bool.not_eq_true] at hn
      rw [List.flatMap_cons, hc]
      exact (Text.isLowUnit_toNat c).trans hn.2.symm

theorem hasPair_flatMap_indentedCode (ns : List Nat) : Text.hasPair (ns.flatMap indentedCode) = Text.hasPair ns := by
  induction ns with
  | nil => rfl
  | cons n ns ih =>
    by_cases hn : Text.isHalf n = true
    · rw [List.flatMap_cons, indentedCode, if_pos hn, List.singleton_append, Text.hasPair_cons,
        beginsLow_flatMap_indentedCode, ih, Text.hasPair_cons]
    · obtain ⟨c, s, hc⟩ := indentedCode_of_not_isHalf hn
      rw [Text.isHalf, Bool.or_eq_true, not_or, Bool.not_eq_true] at hn
      rw [List.flatMap_cons, hc, Text.hasPair_codesOf_append, ih, Text.hasPair_cons, hn.1, Bool.false_and,
        Bool.false_or]

theorem areCodes_flatMap_indentedCode (t : Text) : AreCodes (t.codes.flatMap indentedCode) := by
  refine ⟨.ofCodes _, Text.codes_ofCodes (fun m hm ↦ ?_) ?_⟩
  · obtain ⟨n, hn, hm⟩ := List.mem_flatMap.1 hm
    rw [indentedCode] at hm
    split at hm
    · rw [List.mem_singleton.1 hm]
      exact Text.isHalf_or_isValidChar_of_mem hn
    · obtain ⟨c, -, rfl⟩ := List.mem_map.1 hm
      exact .inr c.valid
  · rw [hasPair_flatMap_indentedCode, Text.hasPair_codes]

theorem areWhole_flatMap_indentedCode (s : List Char) : AreWhole ((codesOf s).flatMap indentedCode) := by
  induction s with
  | nil => exact ⟨[], rfl⟩
  | cons c s ih =>
    obtain ⟨u, hu⟩ := ih
    rw [Text.codesOf_cons, List.flatMap_cons, indentedCode, if_neg (Bool.eq_false_iff.1 (Text.isHalf_toNat c)), ← hu,
      ← Text.codesOf_append]
    exact ⟨_, rfl⟩

theorem indentedText_of_isJoined {p : List Nat → Prop} {t : Text} (hp : IsJoined p)
    (h : p (t.codes.flatMap indentedCode)) : p (indentedText t) :=
  hp.before (hp.behind h '"' []) '"' []

/-! ## Values -/

/-- An indented text is a text. -/
theorem areCodes_indented (depth : Nat) (v : Json) : AreCodes (v.indented depth) := by
  refine indented_of_isJoined (q := fun _ ↦ True) Text.isJoined_areCodes
    (fun t _ ↦ indentedText_of_isJoined Text.isJoined_areCodes (areCodes_flatMap_indentedCode t)) depth fun w _ ↦ ?_
  cases w <;> simp [HoldsTexts]

theorem holdsTexts_of_isExact : ∀ v : Json, v.IsExact → v.HoldsTexts fun t ↦ ∃ s, t = .whole s
  | .str s, _ => ⟨s, rfl⟩
  | .ragged _, h => absurd h id
  | .obj _, h => h
  | .null, _ | .bool _, _ | .int _, _ | .float _, _ | .arr _, _ => trivial

/-- No half stands in the indented text of an exact value. -/
theorem areWhole_indented (depth : Nat) {v : Json} (h : v.Each IsExact) : AreWhole (v.indented depth) := by
  refine indented_of_isJoined Text.isJoined_areWhole ?_ depth (h.mono holdsTexts_of_isExact)
  rintro _ ⟨s, rfl⟩
  exact indentedText_of_isJoined Text.isJoined_areWhole (areWhole_flatMap_indentedCode s.toList)

/-! ## Decoding -/

/-- Reads a text as a value. A half that stands for itself is read like one that is escaped. -/
def decode (t : Text) : Except ReadError Json := parse (escaped t.codes)

/-- A string is decoded like its characters are read. -/
theorem decode_whole (s : String) : decode (.whole s) = parse s.toList := by rw [decode, Text.codes, escaped_codesOf]

/-- The code points are those of a text that decodes to the value. -/
def Decodes (ns : List Nat) (v : Json) : Prop := ∃ t : Text, t.codes = ns ∧ decode t = .ok v

theorem decodes_of_spells {v : Json} {ns : List Nat} {t : List Char} (hn : AreCodes ns) (he : escaped ns = t ++ ['\n'])
    (h : Spells v t) (hr : v.Each IsReadable) : Decodes ns v := by
  obtain ⟨text, rfl⟩ := hn
  refine ⟨text, rfl, ?_⟩
  rw [decode, he]
  exact parse_of_spells isBlank_nil h (isBlank_newLine 0) hr

/-- The line of the one-line text of a value decodes to the value. -/
theorem decodes_compact {v : Json} (hf : v.Each IsFloatFree) (hr : v.Each IsReadable) :
    Decodes (codesOf (v.compact ++ ['\n'])) v :=
  decodes_of_spells (Text.areCodes_codesOf _) (escaped_codesOf _) (spells_compact hf) hr

/-- The lines of the indented text of a value decode to the value. -/
theorem decodes_indented {v : Json} (hf : v.Each IsFloatFree) (hr : v.Each IsReadable) :
    Decodes (v.indented 0 ++ codesOf ['\n']) v := by
  refine decodes_of_spells (Text.isJoined_areCodes.before (areCodes_indented 0 v) '\n' []) ?_ (spells_indented 0 hf) hr
  rw [escaped_append, escaped_codesOf]

end Json

end ClusterMatrix

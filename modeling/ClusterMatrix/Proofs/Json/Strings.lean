import ClusterMatrix.Proofs.Json.Grammar

/-!
# Blanks and strings

A string is read in pieces, and the units among them are joined to code points. The reader takes from a text what the
grammar calls a string, and nothing else.
-/

namespace ClusterMatrix.Json

/-! ## Blanks -/

theorem skipSpace_append_cons {w : List Char} (hw : IsBlank w) {c : Char} (hc : isSpace c = false) (s : List Char) :
    skipSpace (w ++ c :: s) = c :: s := by
  rw [skipSpace, List.dropWhile_append_of_pos hw, List.dropWhile_cons_of_neg]
  rw [hc]
  exact Bool.false_ne_true

theorem skipSpace_blank {w : List Char} (hw : IsBlank w) : skipSpace w = [] := by
  have h : (w ++ []).dropWhile isSpace = [].dropWhile isSpace := List.dropWhile_append_of_pos hw
  rwa [List.append_nil] at h

theorem exists_isBlank_append (s : List Char) : ∃ w, IsBlank w ∧ s = w ++ skipSpace s :=
  ⟨s.takeWhile isSpace, List.all_eq_true.1 List.all_takeWhile, List.takeWhile_append_dropWhile.symm⟩

/-! ## Strings -/

section Pieces

variable {start r r' : List Char} {ps : List Piece}

theorem pieces_plain {c : Char} (hc : 0x20 ≤ c.toNat) (hq : c ≠ '"') (hb : c ≠ '\\')
    (h : pieces start r = .ok (ps, r')) : pieces start (c :: r) = .ok (.char c :: ps, r') := by
  rw [pieces, if_neg (Nat.not_lt.2 hc), h]
  · exact hq
  · exact fun hcb _ ↦ hb hcb
  · exact fun _ hcb _ ↦ hb hcb
  · exact fun _ _ hcb _ ↦ hb hcb

theorem pieces_short {c l : Char} (hl : escapes.lookup l = some c) (h : pieces start r = .ok (ps, r')) :
    pieces start ('\\' :: l :: r) = .ok (.char c :: ps, r') := by
  rw [pieces, hl]
  · dsimp only
    rw [h]
  · rintro rfl
    cases hl

theorem pieces_unit {x y z w : Char} {n : Nat} (hu : unit? x y z w = some n) (hr : r ≠ [])
    (h : pieces start r = .ok (ps, r')) :
    pieces start ('\\' :: 'u' :: x :: y :: z :: w :: r) = .ok (.unit n :: ps, r') := by
  cases r with
  | nil => exact absurd rfl hr
  | cons e r =>
    rw [pieces, hu]
    dsimp only
    rw [h]

end Pieces

/-- The first piece is a low unit, which would join with a high one in front of it. -/
def beginsLow : List Piece → Bool
  | .unit n :: _ => Text.isLowUnit n
  | _ => false

/-- A unit stands alone unless it is a high one in front of a low one. -/
theorem joinUnits_unit {n : Nat} {ps : List Piece} (h : (Text.isHighUnit n && beginsLow ps) = false) :
    joinUnits (.unit n :: ps) = n :: joinUnits ps := by
  cases ps with
  | nil => rfl
  | cons p ps =>
    cases p with
    | char c => rfl
    | unit l =>
      rw [beginsLow] at h
      rw [joinUnits, h, if_neg Bool.false_ne_true]

theorem joinUnits_pair {high low : Nat} (hh : Text.isHighUnit high = true) (hl : Text.isLowUnit low = true)
    (ps : List Piece) :
    joinUnits (.unit high :: .unit low :: ps) = (Text.ofPair high low).toNat :: joinUnits ps := by
  rw [joinUnits, hh, hl, Bool.true_and, if_pos rfl]

/-- What a code point is read in: pieces that are joined to it unless they join with what is behind them, and of which
the first one is a low unit just if the code point is. -/
structure MakesCode (n : Nat) (t : List Char) (qs : List Piece) : Prop where
  reads : ∀ {start r r' : List Char} {ps : List Piece}, r ≠ [] → pieces start r = .ok (ps, r') →
    pieces start (t ++ r) = .ok (qs ++ ps, r')
  joins : ∀ {ps : List Piece}, (Text.isHighUnit n && beginsLow ps) = false →
    joinUnits (qs ++ ps) = n :: joinUnits ps
  begins : ∀ ps : List Piece, beginsLow (qs ++ ps) = Text.isLowUnit n

theorem makesCode_unit {n : Nat} {x y z w : Char} (hu : unit? x y z w = some n) :
    MakesCode n ['\\', 'u', x, y, z, w] [.unit n] :=
  ⟨fun hne hr ↦ pieces_unit hu hne hr, joinUnits_unit, fun _ ↦ rfl⟩

/-- A spelled character is read in pieces that are joined to the character. -/
theorem SpellsChar.exists_makesCode {c : Char} {t : List Char} (h : SpellsChar c t) :
    ∃ qs, MakesCode c.toNat t qs := by
  have hlow := Text.isLowUnit_toNat c
  cases h with
  | plain hc hq hb => exact ⟨[.char c], fun _ hr ↦ pieces_plain hc hq hb hr, fun _ ↦ rfl, fun _ ↦ hlow.symm⟩
  | short hl => exact ⟨[.char c], fun _ hr ↦ pieces_short hl hr, fun _ ↦ rfl, fun _ ↦ hlow.symm⟩
  | unit hu => exact ⟨_, makesCode_unit hu⟩
  | @pair x y z w x' y' z' w' high low hh hl high_isHigh low_isLow hc =>
    refine ⟨[.unit high, .unit low], fun hne hr ↦ ?_, fun _ ↦ ?_, fun ps ↦ ?_⟩
    · exact pieces_unit hh (List.cons_ne_nil _ _) (pieces_unit hl hne hr)
    · rw [← hc]
      exact joinUnits_pair high_isHigh low_isLow _
    · exact (Text.isLowUnit_of_isHighUnit high_isHigh).trans hlow.symm

theorem SpellsCode.exists_makesCode {n : Nat} {t : List Char} (h : SpellsCode n t) : ∃ qs, MakesCode n t qs := by
  cases h with
  | char hc => exact hc.exists_makesCode
  | half _ hu => exact ⟨_, makesCode_unit hu⟩

/-- Spelled code points are read up to the quote behind them, if no pair of halves is among them. The pieces begin with
a low unit just if the code points do, so a high half in front of them stays alone. -/
theorem SpellsCodes.exists_pieces {codes : List Nat} {t : List Char} (h : SpellsCodes codes t)
    (hp : Text.hasPair codes = false) (start r : List Char) :
    ∃ ps, pieces start (t ++ '"' :: r) = .ok (ps, r) ∧ joinUnits ps = codes ∧
      beginsLow ps = codes.head?.any Text.isLowUnit := by
  induction h with
  | nil =>
    refine ⟨[], ?_, rfl, rfl⟩
    rw [List.nil_append, pieces]
  | cons hn _ ih =>
    rw [Text.hasPair_cons, Bool.or_eq_false_iff] at hp
    obtain ⟨ps, hps, hjoin, hbegins⟩ := ih hp.2
    obtain ⟨qs, hqs⟩ := hn.exists_makesCode
    refine ⟨qs ++ ps, ?_, ?_, hqs.begins ps⟩
    · rw [List.append_assoc]
      exact hqs.reads (List.append_ne_nil_of_right_ne_nil _ (List.cons_ne_nil _ _)) hps
    · rw [hqs.joins (hbegins ▸ hp.1), hjoin]

/-- A text is a text and nothing else. -/
theorem ofText_ne {v : Json} (hv : v.toText? = none) (x : Text) : ofText x ≠ v := by
  rintro rfl
  rw [toText?_ofText] at hv
  cases hv

/-- A spelled text is read as the text. -/
theorem string_of_spellsText {codes : List Nat} {t : List Char} (h : SpellsText codes t)
    (hp : Text.hasPair codes = false) :
    ∃ u, t = '"' :: u ∧ ∀ start rest, string start (u ++ rest) = .ok (.ofCodes codes, rest) := by
  obtain ⟨u, hu, rfl⟩ := h
  refine ⟨u ++ ['"'], rfl, fun start rest ↦ ?_⟩
  obtain ⟨ps, hps, hjoin, -⟩ := hu.exists_pieces hp start rest
  rw [List.append_assoc, List.singleton_append, string, hps]
  dsimp only
  rw [hjoin]

/-! ## What is read as a string -/

/-- How pieces are written. -/
inductive SpellsPieces : List Piece → List Char → Prop where
  | nil : SpellsPieces [] []
  | plain {c : Char} {ps : List Piece} {t : List Char} (hc : 0x20 ≤ c.toNat) (hq : c ≠ '"') (hb : c ≠ '\\')
      (h : SpellsPieces ps t) : SpellsPieces (.char c :: ps) (c :: t)
  | short {l c : Char} {ps : List Piece} {t : List Char} (hl : escapes.lookup l = some c) (h : SpellsPieces ps t) :
      SpellsPieces (.char c :: ps) ('\\' :: l :: t)
  | unit {x y z w : Char} {n : Nat} {ps : List Piece} {t : List Char} (hu : unit? x y z w = some n)
      (h : SpellsPieces ps t) : SpellsPieces (.unit n :: ps) ('\\' :: 'u' :: x :: y :: z :: w :: t)

/-- Pieces up to the quote behind them. -/
def SpellsQuoted (ps : List Piece) (t : List Char) : Prop := ∃ u, SpellsPieces ps u ∧ t = u ++ ['"']

theorem explains_pieces (start s : List Char) : Explains SpellsQuoted (fun _ _ ↦ False) s (pieces start s) := by
  fun_induction pieces start s with
  | case2 r => exact .ok ⟨[], .nil, rfl⟩ rfl
  | case4 x y z w e r n hu ps rest hps ih =>
    rw [hps] at ih
    obtain ⟨_, ⟨u, h, rfl⟩, hr⟩ := ih.exists_of_ok
    exact .ok ⟨_, .unit hu h, rfl⟩ (by rw [hr]; rfl)
  | case8 l r hl c hc ps rest hps ih =>
    rw [hps] at ih
    obtain ⟨_, ⟨u, h, rfl⟩, rfl⟩ := ih.exists_of_ok
    exact .ok ⟨_, .short hc h, rfl⟩ rfl
  | case12 c r hq hb hu hb' hc ps rest hps ih =>
    rw [hps] at ih
    obtain ⟨_, ⟨u, h, rfl⟩, rfl⟩ := ih.exists_of_ok
    have hback : c ≠ '\\' := by
      intro he
      cases u with
      | nil => exact hb' _ _ he rfl
      | cons d u => exact hb' _ _ he rfl
    exact .ok ⟨_, .plain (Nat.not_lt.1 hc) hq hback h, rfl⟩ rfl
  | case5 _ _ _ _ _ _ _ _ x hx ih => exact (hx ▸ ih).of_error fun _ ↦ False.elim
  | case9 _ _ _ _ _ x hx ih => exact (hx ▸ ih).of_error fun _ ↦ False.elim
  | case13 _ _ _ _ _ _ _ x hx ih => exact (hx ▸ ih).of_error fun _ ↦ False.elim
  | _ => exact .fault _ _

theorem hexValue?_lt {c : Char} {n : Nat} (h : Text.hexValue? c = some n) : n < 16 := by
  have hle : ∀ d : Char, c ≤ d → c.toNat ≤ d.toNat := fun d hd ↦ hd
  rw [Text.hexValue?] at h
  split at h
  · rename_i hc
    have h9 := hle _ hc.2
    cases h
    exact Nat.lt_of_le_of_lt (Nat.sub_le_sub_right h9 48) (by decide)
  · split at h
    · rename_i hc
      have hf := hle _ hc.2
      cases h
      exact Nat.lt_of_le_of_lt (Nat.sub_le_sub_right hf 87) (by decide)
    · split at h
      · rename_i hc
        have hF := hle _ hc.2
        cases h
        exact Nat.lt_of_le_of_lt (Nat.sub_le_sub_right hF 55) (by decide)
      · cases h

theorem unit?_lt {x y z w : Char} {n : Nat} (h : unit? x y z w = some n) : n < 0x10000 := by
  simp only [unit?, Option.bind_eq_bind, Option.bind_eq_some_iff, Option.pure_def, Option.some.injEq] at h
  obtain ⟨a, ha, b, hb, c, hc, d, hd, rfl⟩ := h
  have ha := hexValue?_lt ha
  have hb := hexValue?_lt hb
  have hc := hexValue?_lt hc
  have hd := hexValue?_lt hd
  omega

/-- The code point of a single unit is written by its escape. -/
theorem spellsCode_unit {x y z w : Char} {n : Nat} (h : unit? x y z w = some n) :
    SpellsCode n ['\\', 'u', x, y, z, w] := by
  by_cases hn : Text.isHalf n = true
  · exact .half hn h
  · have hlt := unit?_lt h
    rw [Text.isHalf_iff] at hn
    have hv : n.isValidChar := by
      rw [Nat.isValidChar]
      omega
    have hc : (Char.ofNat n).toNat = n := Text.toNat_ofNat_of_isValidChar hv
    rw [← hc] at h ⊢
    exact .char (.unit h)

/-- The code points that pieces are joined to are written like the pieces. -/
theorem SpellsPieces.spellsCodes {ps : List Piece} {t : List Char} (h : SpellsPieces ps t) :
    SpellsCodes (joinUnits ps) t := by
  fun_induction joinUnits ps generalizing t with
  | case1 =>
    cases h
    exact .nil
  | case2 c ps ih =>
    cases h with
    | plain hc hq hb h => exact .cons (.char (.plain hc hq hb)) (ih h)
    | short hl h => exact .cons (.char (.short hl)) (ih h)
  | case3 high low ps hjoin ih =>
    cases h with
    | unit hh h =>
      cases h with
      | unit hl h =>
        rw [Bool.and_eq_true] at hjoin
        exact .cons (.char (.pair hh hl hjoin.1 hjoin.2 rfl)) (ih h)
  | case4 n low ps hjoin ih =>
    cases h with
    | unit hu h => exact .cons (spellsCode_unit hu) (ih h)
  | case5 n ps hps ih =>
    cases h with
    | unit hu h => exact .cons (spellsCode_unit hu) (ih h)

/-- Code points that are joined from pieces begin with a low unit just if the pieces do, and hold no pair. -/
theorem hasPair_joinUnits (ps : List Piece) :
    (joinUnits ps).head?.any Text.isLowUnit = beginsLow ps ∧ Text.hasPair (joinUnits ps) = false := by
  fun_induction joinUnits ps with
  | case1 => exact ⟨rfl, rfl⟩
  | case2 c ps ih =>
    refine ⟨Text.isLowUnit_toNat c, ?_⟩
    rw [Text.hasPair_cons, Text.isHighUnit_toNat, ih.2]
    rfl
  | case3 high low ps hjoin ih =>
    rw [Bool.and_eq_true] at hjoin
    rw [List.head?_cons, Option.any_some, Text.isLowUnit_toNat, beginsLow, Text.isLowUnit_of_isHighUnit hjoin.1,
      Text.hasPair_cons, Text.isHighUnit_toNat, ih.2]
    exact ⟨rfl, rfl⟩
  | case4 n low ps hjoin ih =>
    refine ⟨rfl, ?_⟩
    rw [Text.hasPair_cons, ih.1, ih.2, beginsLow, Bool.or_false]
    exact Bool.eq_false_iff.2 hjoin
  | case5 n ps hps ih =>
    refine ⟨rfl, ?_⟩
    have hlow : beginsLow ps = false := by
      cases ps with
      | nil => rfl
      | cons p ps =>
        cases p with
        | char c => rfl
        | unit l => exact absurd rfl (hps l ps)
    rw [Text.hasPair_cons, ih.1, ih.2, hlow, Bool.and_false]
    rfl

/-- The texts of a string. -/
def IsText (x : Text) (t : List Char) : Prop :=
  ∃ codes, SpellsText codes t ∧ Text.hasPair codes = false ∧ x = .ofCodes codes

theorem explains_string (start r : List Char) : Explains IsText (fun _ _ ↦ False) ('"' :: r) (string start r) := by
  have h := explains_pieces start r
  rw [string]
  split
  · rename_i hps
    rw [hps] at h
    obtain ⟨_, ⟨u, hu, rfl⟩, hr⟩ := h.exists_of_ok
    refine .ok ⟨_, ⟨u, hu.spellsCodes, rfl⟩, (hasPair_joinUnits _).2, rfl⟩ ?_
    rw [hr]
    rfl
  · rename_i hx
    exact (hx ▸ h).of_error fun _ ↦ False.elim

end ClusterMatrix.Json

import ClusterMatrix.Proofs.Json.Grammar

/-!
# Numbers and words

The reader takes from a text what the grammar calls a number, as long as it can be, and refuses an integer beyond the
limit. The words for values are taken where they stand.
-/

namespace ClusterMatrix.Json

open Text (NoDigit isEmpty_takeWhile_isDigit_iff takeWhile_isDigit_append dropWhile_isDigit_append)

/-! ## Parts of a number -/

theorem wholePart?_append {ds rest : List Char} (hw : IsWhole ds) (hr : NoDigit rest) :
    wholePart? (ds ++ rest) = some (ds, rest) := by
  cases hw with
  | zero => rw [List.singleton_append, wholePart?, if_pos rfl]
  | @digits c ds hc hd =>
    have htake := takeWhile_isDigit_append hd hr
    have hdrop := dropWhile_isDigit_append hd hr
    rw [List.cons_append] at htake hdrop ⊢
    rw [wholePart?, if_neg hc, if_pos (hd c List.mem_cons_self), htake, hdrop]

theorem fraction_append {places p rest : List Char} (hp : DenotesPlaces places p) (hr : NoDigit rest)
    (hpoint : ∀ {t : List Char}, rest = '.' :: t → NoDigit t) : fraction (p ++ rest) = (places, rest) := by
  cases hp with
  | none =>
    rw [List.nil_append]
    unfold fraction
    split
    · rw [if_pos (isEmpty_takeWhile_isDigit_iff.2 (hpoint rfl))]
    · rfl
  | some hd hne =>
    have htake := takeWhile_isDigit_append hd hr
    have hdrop := dropWhile_isDigit_append hd hr
    rw [List.cons_append, fraction, htake, hdrop, if_neg]
    rwa [List.isEmpty_iff]

theorem signOf_append {negative : Bool} {g t : List Char} (hg : DenotesSign negative g)
    (ht : ∀ c ∈ t.head?, c.isDigit = true) : signOf (g ++ t) = (negative, t) := by
  cases hg with
  | none =>
    rw [List.nil_append]
    unfold signOf
    split
    · exact absurd (ht '-' rfl) Bool.noConfusion
    · exact absurd (ht '+' rfl) Bool.noConfusion
    · rfl
  | plus => rfl
  | minus => rfl

/-- A text is its sign, if it has one, and the rest. -/
theorem exists_signOf_eq (s : List Char) :
    ∃ negative g t, signOf s = (negative, t) ∧ DenotesSign negative g ∧ s = g ++ t := by
  unfold signOf
  split
  · exact ⟨_, _, _, rfl, .minus, rfl⟩
  · exact ⟨_, _, _, rfl, .plus, rfl⟩
  · exact ⟨_, _, _, rfl, .none, rfl⟩

theorem exponent_append {exp : Option Int} {x rest : List Char} (hx : DenotesExponent exp x) (hr : EndsInteger rest) :
    exponent (x ++ rest) = (exp, rest) := by
  cases hx with
  | none =>
    rw [List.nil_append]
    cases rest with
    | nil => rfl
    | cons c r =>
      rw [exponent]
      split
      · rename_i hc
        obtain ⟨negative, g, t, hsign, hg, rfl⟩ := exists_signOf_eq r
        rw [hsign]
        dsimp only
        rw [if_pos (isEmpty_takeWhile_isDigit_iff.2 (hr.noExponent hc hg rfl))]
      · rfl
  | @some c negative g ds hc hg hd hne =>
    have hsign : signOf (g ++ (ds ++ rest)) = (negative, ds ++ rest) := by
      obtain ⟨d, ds, rfl⟩ := List.exists_cons_of_ne_nil hne
      apply signOf_append hg
      rintro _ ⟨⟩
      exact hd d List.mem_cons_self
    rw [List.cons_append, List.append_assoc, exponent, if_pos hc, hsign]
    dsimp only
    rw [takeWhile_isDigit_append hd hr.noDigit, dropWhile_isDigit_append hd hr.noDigit, if_neg]
    · rfl
    · rwa [List.isEmpty_iff]

/-- A number without a point and an exponent is an integer. -/
theorem DenotesPlaces.isEmpty_and_isNone_iff {places p x : List Char} {exp : Option Int} (hp : DenotesPlaces places p)
    (hx : DenotesExponent exp x) : (places.isEmpty = true ∧ exp.isNone = true) ↔ p ++ x = [] := by
  cases hp with
  | none =>
    cases hx with
    | none => exact iff_of_true ⟨rfl, rfl⟩ rfl
    | some _ _ _ _ => exact iff_of_false (fun h ↦ nomatch h.2) (List.cons_ne_nil _ _)
  | some _ hne => exact iff_of_false (fun h ↦ hne (List.isEmpty_iff.1 h.1)) (List.cons_ne_nil _ _)

/-- What a number is read as, by its parts. -/
theorem number_of_parts {negative : Bool} {ds places s r r' rest : List Char} {exp : Option Int}
    (hw : wholePart? s = some (ds, r)) (hp : fraction r = (places, r')) (hx : exponent r' = (exp, rest)) :
    number (minus negative ++ s) =
      if places.isEmpty ∧ exp.isNone then
        if maxIntegerDigits < ds.length then .error .longInteger
        else .ok (.int (signed negative (Nat.ofDigitChars 10 ds 0)), rest)
      else .ok (.float (Decimal.nearest negative (Nat.ofDigitChars 10 (ds ++ places) 0)
        (exp.getD 0 - places.length)), rest) := by
  cases negative with
  | true =>
    rw [minus, if_pos rfl, List.singleton_append, number]
    simp only [hw, hp, hx]
    rfl
  | false =>
    rw [minus, if_neg Bool.false_ne_true, List.nil_append, number]
    · simp only [hw, hp, hx]
      rfl
    · rintro t rfl
      cases hw

section

variable {negative : Bool} {ds rest : List Char}

/-- An integer is read to its end, or refused. -/
theorem number_int (hw : IsWhole ds) (hr : EndsInteger rest) :
    number (minus negative ++ (ds ++ rest)) =
      if maxIntegerDigits < ds.length then .error .longInteger
      else .ok (.int (signed negative (Nat.ofDigitChars 10 ds 0)), rest) := by
  have hfraction := fraction_append .none hr.noDigit hr.noPlaces
  have hexponent := exponent_append .none hr
  rw [number_of_parts (wholePart?_append hw hr.noDigit) hfraction hexponent]
  rfl

/-- A point or the mark of an exponent comes behind the digits before them. -/
theorem DenotesExponent.noDigit_append {exp : Option Int} {x : List Char} (hx : DenotesExponent exp x)
    (hr : Stops rest) : NoDigit (x ++ rest) ∧ ∀ {t : List Char}, x ++ rest = '.' :: t → NoDigit t := by
  cases hx with
  | none => exact ⟨hr.noDigit, hr.endsInteger.noPlaces⟩
  | some hc _ _ _ =>
    rcases hc with rfl | rfl <;> exact ⟨Text.noDigit_cons_iff.2 rfl, nofun⟩

theorem DenotesPlaces.noDigit_append {places p s : List Char} (hp : DenotesPlaces places p) (hs : NoDigit s) :
    NoDigit (p ++ s) := by
  cases hp with
  | none => exact hs
  | some _ _ => exact Text.noDigit_cons_iff.2 rfl

theorem number_float {exp : Option Int} {places p x : List Char} (hw : IsWhole ds) (hp : DenotesPlaces places p)
    (hx : DenotesExponent exp x) (hne : p ++ x ≠ []) (hr : Stops rest) :
    number (minus negative ++ (ds ++ (p ++ (x ++ rest)))) =
      .ok (.float (Decimal.nearest negative (Nat.ofDigitChars 10 (ds ++ places) 0) (exp.getD 0 - places.length)),
        rest) := by
  obtain ⟨hdigit, hpoint⟩ := hx.noDigit_append hr
  have hwhole := wholePart?_append hw (hp.noDigit_append hdigit)
  rw [number_of_parts hwhole (fraction_append hp hdigit hpoint) (exponent_append hx hr.endsInteger), if_neg]
  rwa [hp.isEmpty_and_isNone_iff hx]

end

/-! ## What is read as a number -/

/-- Only a zero can be taken with a digit behind it. -/
theorem of_wholePart? {s ds rest : List Char} (h : wholePart? s = some (ds, rest)) :
    IsWhole ds ∧ s = ds ++ rest ∧ (ds.length ≠ 1 → NoDigit rest) := by
  cases s with
  | nil => cases h
  | cons c s =>
    rw [wholePart?] at h
    split at h
    · rename_i hc
      cases h
      exact ⟨.zero, by rw [hc]; rfl, fun hl ↦ absurd rfl hl⟩
    · rename_i hc
      split at h
      · rename_i hd
        have htake : (c :: s).takeWhile Char.isDigit = c :: s.takeWhile Char.isDigit := List.takeWhile_cons_of_pos hd
        rw [Option.some.injEq, Prod.mk.injEq] at h
        obtain ⟨rfl, rfl⟩ := h
        refine ⟨?_, List.takeWhile_append_dropWhile.symm, fun _ ↦ Text.noDigit_dropWhile _⟩
        have hdigits := List.all_eq_true.1 (List.all_takeWhile (p := Char.isDigit) (l := c :: s))
        rw [htake] at hdigits ⊢
        exact .digits hc hdigits
      · cases h

/-- Without digits behind it, a point is left alone. -/
theorem of_fraction {s places rest : List Char} (h : fraction s = (places, rest)) :
    ∃ p, DenotesPlaces places p ∧ s = p ++ rest ∧ (places = [] → ∀ {t}, rest = '.' :: t → NoDigit t) := by
  unfold fraction at h
  split at h
  · rename_i r
    split at h
    · rename_i hempty
      cases h
      refine ⟨[], .none, rfl, ?_⟩
      rintro _ t ⟨⟩
      exact isEmpty_takeWhile_isDigit_iff.1 hempty
    · rename_i hempty
      rw [List.isEmpty_iff] at hempty
      cases h
      refine ⟨_, .some (List.all_eq_true.1 List.all_takeWhile) hempty, ?_, fun hp ↦ absurd hp hempty⟩
      rw [List.cons_append, List.takeWhile_append_dropWhile]
  · rename_i hpoint
    cases h
    exact ⟨[], .none, rfl, fun _ _ ht ↦ absurd ht (hpoint _)⟩

theorem of_exponent {s rest : List Char} {exp : Option Int} (h : exponent s = (exp, rest)) :
    ∃ x, DenotesExponent exp x ∧ s = x ++ rest := by
  cases s with
  | nil =>
    cases h
    exact ⟨[], .none, rfl⟩
  | cons c r =>
    obtain ⟨negative, g, t, hsign, hg, rfl⟩ := exists_signOf_eq r
    rw [exponent, hsign] at h
    dsimp only at h
    split at h
    · rename_i hc
      split at h
      · cases h
        exact ⟨[], .none, rfl⟩
      · rename_i hempty
        rw [List.isEmpty_iff] at hempty
        cases h
        refine ⟨_, .some hc hg (List.all_eq_true.1 List.all_takeWhile) hempty, ?_⟩
        rw [List.cons_append, List.append_assoc, List.takeWhile_append_dropWhile]
    · cases h
      exact ⟨[], .none, rfl⟩

/-- What is no exponent has no digits in the place of one. -/
theorem noDigit_of_exponent {c : Char} {negative : Bool} {g t rest : List Char} (hc : c = 'e' ∨ c = 'E')
    (hg : DenotesSign negative g) (h : exponent (c :: (g ++ t)) = (none, rest)) : NoDigit t := by
  cases t with
  | nil => exact Text.noDigit_nil
  | cons d t =>
    rw [Text.noDigit_cons_iff, ← Bool.not_eq_true]
    intro hd
    have hdigit : ∀ d' ∈ (d :: t).head?, d'.isDigit = true := by
      rintro _ ⟨⟩
      exact hd
    rw [exponent, if_pos hc, signOf_append hg hdigit] at h
    dsimp only at h
    rw [List.takeWhile_cons_of_pos hd] at h
    cases h

/-- A text is its minus sign, if it has one, and the rest. If no digits begin the rest there is no number. -/
theorem exists_minus_append (s : List Char) :
    ∃ negative t, s = minus negative ++ t ∧ (wholePart? t = none → number s = .error (.fault .value s)) := by
  by_cases hs : ∃ t, s = '-' :: t
  · obtain ⟨t, rfl⟩ := hs
    refine ⟨true, t, rfl, fun h ↦ ?_⟩
    rw [number]
    simp only [h]
  · refine ⟨false, s, rfl, fun h ↦ ?_⟩
    rw [number]
    · simp only [h]
    · exact fun t ht ↦ hs ⟨t, ht⟩

/-- A number is an obstacle just if it is an integer beyond the limit. -/
theorem explains_number (limit depth : Nat) (s : List Char) :
    Explains (Denotes IsShort) (fun o ↦ Meets (o.Begins limit) depth) s (number s) := by
  obtain ⟨negative, t, rfl, hfault⟩ := exists_minus_append s
  cases hw : wholePart? t with
  | none =>
    rw [hfault hw]
    exact .fault _ _
  | some part =>
    obtain ⟨ds, r⟩ := part
    cases hp : fraction r with
    | mk places r' =>
      cases hx : exponent r' with
      | mk exp rest =>
        obtain ⟨hwhole, rfl, hdigit⟩ := of_wholePart? hw
        obtain ⟨p, hplaces, rfl, hpoint⟩ := of_fraction hp
        obtain ⟨x, hexp, rfl⟩ := of_exponent hx
        rw [number_of_parts hw hp hx]
        split
        · rename_i hint
          rw [hplaces.isEmpty_and_isNone_iff hexp, List.append_eq_nil_iff] at hint
          obtain ⟨rfl, rfl⟩ := hint
          cases hplaces
          cases hexp
          rw [List.nil_append, List.nil_append] at hdigit ⊢
          split
          · rename_i hlong
            have hone : ds.length ≠ 1 := by
              intro hone
              rw [hone] at hlong
              exact absurd hlong (by decide)
            refine .obstacle .longInteger (.here (.int hwhole (Nat.not_le.2 hlong) ⟨hdigit hone, hpoint rfl, ?_⟩))
            rintro c _ g t hc hg rfl
            exact noDigit_of_exponent hc hg hx
          · rename_i hshort
            exact .ok (.int hwhole (Nat.not_lt.1 hshort)) (List.append_assoc _ _ _).symm
        · rename_i hfloat
          rw [hplaces.isEmpty_and_isNone_iff hexp] at hfloat
          refine .ok (.float hwhole hplaces hexp hfloat) ?_
          rw [List.append_assoc, List.append_assoc, List.append_assoc]

/-! ## Words -/

theorem of_after? {w s rest : List Char} (h : after? w s = some rest) : s = w ++ rest := by
  fun_induction after? w s with
  | case1 s =>
    cases h
    rfl
  | case2 => cases h
  | case3 c w s ih => rw [ih h, List.cons_append]
  | case4 => cases h

theorem of_word? {s rest : List Char} {v : Json} (h : word? s = some (v, rest)) :
    ∃ t, (t, v) ∈ words ∧ s = t ++ rest := by
  obtain ⟨⟨t, w⟩, hw, h⟩ := List.exists_of_findSome?_eq_some h
  rw [Option.map_eq_some_iff] at h
  obtain ⟨r, hr, h⟩ := h
  cases h
  exact ⟨t, hw, of_after? hr⟩

end ClusterMatrix.Json

import ClusterMatrix.Proofs.Workflow.Escape

/-!
# Texts of escaped data, and their two readers

The three passes that write escaped data come to one substitution of single characters. The three passes that read it
come to `unescape`: no pass writes what a later one would take for a code, since the percent sign, with which each code
begins, is written last. Escaped data are the texts of one line in which every percent sign begins a code, and on these
writing undoes reading.
-/

namespace ClusterMatrix.Workflow

variable {s t : List Char}

/-- The three passes of writing come to a substitution of single characters. -/
theorem escape_eq_escapeOnce (s : List Char) : escape s = escapeOnce s := by
  induction s with
  | nil => rfl
  | cons c s ih =>
    rw [escape_cons, ih]
    rfl

/-! ## Reading in three passes -/

section Passes

variable {a b c x : Char}

theorem replaceCode_cons (h : x ≠ '%') (s : List Char) :
    replaceCode a b c (x :: s) = x :: replaceCode a b c s := by
  match s with
  | [] | [_] => rfl
  | y :: z :: r => rw [replaceCode, if_neg fun hc ↦ h hc.1]

theorem replaceCode_code (r : List Char) : replaceCode a b c ('%' :: a :: b :: r) = c :: replaceCode a b c r := by
  rw [replaceCode, if_pos ⟨rfl, rfl, rfl⟩]

/-- A percent sign stays if it does not begin the code of the pass. -/
theorem replaceCode_percent (h : ∀ r, s ≠ a :: b :: r) :
    replaceCode a b c ('%' :: s) = '%' :: replaceCode a b c s := by
  match s with
  | [] | [_] => rfl
  | y :: z :: r =>
    rw [replaceCode, if_neg]
    rintro ⟨-, rfl, rfl⟩
    exact h r rfl

/-- A pass leaves another code alone. -/
theorem replaceCode_other {y z : Char} (hy : y ≠ '%') (hz : z ≠ '%') (h : y ≠ a ∨ z ≠ b) (r : List Char) :
    replaceCode a b c ('%' :: y :: z :: r) = '%' :: y :: z :: replaceCode a b c r := by
  rw [replaceCode_percent, replaceCode_cons hy, replaceCode_cons hz]
  rintro u hu
  cases hu
  exact h.elim (absurd rfl) (absurd rfl)

/-- What stands in front behind a pass stood there before, unless the pass wrote it. -/
theorem exists_of_replaceCode_eq_cons (hx : x ≠ c) (h : replaceCode a b c s = x :: t) :
    ∃ r, s = x :: r ∧ replaceCode a b c r = t := by
  match s with
  | [] => cases h
  | [y] | [y, z] =>
    cases h
    exact ⟨_, rfl, rfl⟩
  | y :: z :: w :: r =>
    rw [replaceCode] at h
    split at h
    · cases h
      exact absurd rfl hx
    · cases h
      exact ⟨_, rfl, rfl⟩

/-- A pass brings no pair to the front that it did not write a part of. -/
theorem replaceCode_ne_cons_cons {y z : Char} (hy : y ≠ c) (hz : z ≠ c) (h : ∀ r, s ≠ y :: z :: r) (t : List Char) :
    replaceCode a b c s ≠ y :: z :: t := by
  intro he
  obtain ⟨r, rfl, hr⟩ := exists_of_replaceCode_eq_cons hy he
  obtain ⟨r, rfl, -⟩ := exists_of_replaceCode_eq_cons hz hr
  exact h r rfl

end Passes

/-- Reading in three passes is reading from left to right. -/
theorem unescapePasses_eq_unescape (s : List Char) : unescapePasses s = unescape s := by
  rw [unescapePasses]
  fun_induction unescape s with
  | case1 r ih =>
    rw [replaceCode_other (by decide) (by decide) (by decide), replaceCode_other (by decide) (by decide) (by decide),
      replaceCode_code, ih]
  | case2 r ih =>
    rw [replaceCode_code, replaceCode_cons (by decide), replaceCode_cons (by decide), ih]
  | case3 r ih =>
    rw [replaceCode_other (by decide) (by decide) (by decide), replaceCode_code, replaceCode_cons (by decide), ih]
  | case4 c r hpercent hreturn hnewline ih =>
    by_cases hc : c = '%'
    · subst hc
      -- What stands behind the percent sign is no code before the passes, and none of them makes it one.
      have hD : ∀ u, r ≠ '0' :: 'D' :: u := fun u ↦ hreturn u rfl
      have hA : ∀ u, r ≠ '0' :: 'A' :: u := fun u ↦ hnewline u rfl
      have h25 : ∀ u, r ≠ '2' :: '5' :: u := fun u ↦ hpercent u rfl
      rw [replaceCode_percent hD, replaceCode_percent (replaceCode_ne_cons_cons (by decide) (by decide) hA),
        replaceCode_percent (replaceCode_ne_cons_cons (by decide) (by decide)
          (replaceCode_ne_cons_cons (by decide) (by decide) h25)), ih]
    · rw [replaceCode_cons hc, replaceCode_cons hc, replaceCode_cons hc, ih]
  | case5 => rfl

/-! ## Texts of escaped data -/

def codes : List (List Char) := [['%', '2', '5'], ['%', '0', 'D'], ['%', '0', 'A']]

/-- Behind its percent sign a code holds neither another one nor a line end. -/
theorem plain_of_mem_codes {a b : Char} (h : ['%', a, b] ∈ codes) :
    (a ≠ '\r' ∧ a ≠ '\n' ∧ a ≠ '%') ∧ b ≠ '\r' ∧ b ≠ '\n' ∧ b ≠ '%' := by
  simp only [codes, List.mem_cons, List.not_mem_nil, or_false, List.cons.injEq, and_true, true_and] at h
  rcases h with ⟨rfl, rfl⟩ | ⟨rfl, rfl⟩ | ⟨rfl, rfl⟩
  · decide
  · decide
  · decide

/-- A text of one line in which every percent sign begins a code. -/
structure IsCoded (t : List Char) : Prop where
  return_not_mem : '\r' ∉ t
  newline_not_mem : '\n' ∉ t
  begins : ∀ l r, t = l ++ '%' :: r → ∃ code ∈ codes, code <+: '%' :: r

namespace IsCoded

variable {c : Char}

theorem nil : IsCoded [] := by
  refine ⟨List.not_mem_nil, List.not_mem_nil, ?_⟩
  intro l r h
  exact absurd h.symm (by simp)

theorem of_cons (h : IsCoded (c :: t)) : IsCoded t := by
  refine ⟨fun hm ↦ h.return_not_mem (.tail c hm), fun hm ↦ h.newline_not_mem (.tail c hm), ?_⟩
  intro l r he
  exact h.begins (c :: l) r (by rw [he, List.cons_append])

/-- A character goes in front if it is no line end, and begins a code if it is a percent sign. -/
theorem cons (hr : c ≠ '\r') (hn : c ≠ '\n') (hp : c = '%' → ∃ code ∈ codes, code <+: c :: t) (h : IsCoded t) :
    IsCoded (c :: t) := by
  refine ⟨?_, ?_, ?_⟩
  · rw [List.mem_cons, not_or]
    exact ⟨hr.symm, h.return_not_mem⟩
  · rw [List.mem_cons, not_or]
    exact ⟨hn.symm, h.newline_not_mem⟩
  · intro l r he
    cases l with
    | nil =>
      rw [List.nil_append, List.cons.injEq] at he
      obtain ⟨rfl, rfl⟩ := he
      exact hp rfl
    | cons d l =>
      rw [List.cons_append, List.cons.injEq] at he
      exact h.begins l r he.2

/-- A code may go in front. -/
theorem code {a b : Char} (hc : ['%', a, b] ∈ codes) : IsCoded ('%' :: a :: b :: t) ↔ IsCoded t := by
  refine ⟨fun h ↦ h.of_cons.of_cons.of_cons, fun h ↦ ?_⟩
  obtain ⟨⟨har, han, hap⟩, hbr, hbn, hbp⟩ := plain_of_mem_codes hc
  refine .cons (by decide) (by decide) (fun _ ↦ ⟨_, hc, t, rfl⟩) ?_
  exact .cons har han (absurd · hap) (.cons hbr hbn (absurd · hbp) h)

end IsCoded

/-- The texts of escaped data can be told from left to right. -/
theorem isEscaped_iff : isEscaped t = true ↔ IsCoded t := by
  fun_induction isEscaped t with
  | case1 r ih => rw [ih, IsCoded.code (by decide)]
  | case2 r ih => rw [ih, IsCoded.code (by decide)]
  | case3 r ih => rw [ih, IsCoded.code (by decide)]
  | case4 c r hpercent hreturn hnewline ih =>
    simp only [Bool.and_eq_true, decide_eq_true_eq, ih]
    constructor
    · rintro ⟨⟨⟨hp, hr⟩, hn⟩, h⟩
      exact .cons hr hn (absurd · hp) h
    · intro h
      refine ⟨⟨⟨?_, ?_⟩, ?_⟩, h.of_cons⟩
      · rintro rfl
        obtain ⟨code, hc, u, hu⟩ := h.begins [] r rfl
        simp only [codes, List.mem_cons, List.not_mem_nil, or_false] at hc
        rcases hc with rfl | rfl | rfl
        · cases hu
          exact hpercent u rfl rfl
        · cases hu
          exact hreturn u rfl rfl
        · cases hu
          exact hnewline u rfl rfl
      · rintro rfl
        exact h.return_not_mem List.mem_cons_self
      · rintro rfl
        exact h.newline_not_mem List.mem_cons_self
  | case5 => exact iff_of_true rfl .nil

theorem isEscaped_escapeChar_append (c : Char) (t : List Char) :
    isEscaped (escapeChar c ++ t) = isEscaped t := by
  rcases escapeChar_cases c with rfl | rfl | rfl | ⟨hp, hr, hn, he⟩
  · rfl
  · rfl
  · rfl
  · rw [he, List.singleton_append, isEscaped]
    · simp [hp, hr, hn]
    · exact fun _ hc _ ↦ hp hc
    · exact fun _ hc _ ↦ hp hc
    · exact fun _ hc _ ↦ hp hc

/-- Escaped data are of this kind. -/
theorem isEscaped_escape (s : List Char) : isEscaped (escape s) = true := by
  induction s with
  | nil => rfl
  | cons c s ih => rw [escape_cons, isEscaped_escapeChar_append, ih]

/-- Writing what was read gives the text back. -/
theorem escape_unescape (h : isEscaped t = true) : escape (unescape t) = t := by
  fun_induction isEscaped t with
  | case1 r ih =>
    rw [unescape, escape_cons, ih h]
    rfl
  | case2 r ih =>
    rw [unescape, escape_cons, ih h]
    rfl
  | case3 r ih =>
    rw [unescape, escape_cons, ih h]
    rfl
  | case4 c r _ _ _ ih =>
    simp only [Bool.and_eq_true, decide_eq_true_eq] at h
    obtain ⟨⟨⟨hp, hr⟩, hn⟩, h⟩ := h
    rw [unescape_cons hp, escape_cons, ih h, escapeChar, if_neg hp, if_neg hr, if_neg hn, List.singleton_append]
  | case5 => rfl

/-- A reader takes escaped data back to the data, and each text of escaped data to data that is written as it. -/
structure Decodes (decode : List Char → List Char) : Prop where
  decode_escape : ∀ s, decode (escape s) = s
  escape_decode : ∀ t, IsCoded t → escape (decode t) = t

theorem decodes_unescape : Decodes unescape :=
  ⟨unescape_escape, fun _ h ↦ escape_unescape (isEscaped_iff.2 h)⟩

/-- Writing substitutes each character on its own, and so part by part. Both readers undo it. What it writes are exactly
the texts of one line in which every percent sign begins a code. -/
theorem escape_onto_isCoded :
    (∀ s, escape s = escapeOnce s) ∧ (∀ s t, escape (s ++ t) = escape s ++ escape t) ∧
      Decodes unescape ∧ Decodes unescapePasses ∧ ∀ t, (∃ s, escape s = t) ↔ IsCoded t := by
  have hpasses : unescapePasses = unescape := funext unescapePasses_eq_unescape
  refine ⟨escape_eq_escapeOnce, escape_append, decodes_unescape, ?_, ?_⟩
  · rw [hpasses]
    exact decodes_unescape
  · intro t
    constructor
    · rintro ⟨s, rfl⟩
      exact isEscaped_iff.1 (isEscaped_escape s)
    · intro h
      exact ⟨unescape t, decodes_unescape.escape_decode t h⟩

/-- A text that looks escaped is told from the character for which it would stand. -/
example : escape "\n%0A%250A".toList = "%0A%250A%25250A".toList := by decide

end ClusterMatrix.Workflow

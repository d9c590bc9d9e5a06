import ClusterMatrix.Proofs.Json.Derivation

/-!
# Which texts are read

With a limit to the nesting, reading gives a text up just if it meets a bracket that is nested deeper. Every other text is
read like without a limit: as the value that it denotes with all integers within their limit, or it is refused for an
integer beyond it, or it has a fault.
-/

namespace ClusterMatrix.Json

/-! ## More room -/

mutual

/-- More room changes nothing but for a text that was given up. -/
theorem value_more : ∀ (n room more : Nat) (s : List Char), ComesTo (value n room s) (value n (room + more) s)
  | 0, room, more, s => by
    rw [value, value]
    exact .refl _
  | n + 1, room, more, s => by
    rcases head_cases s with hs | ⟨r, rfl | rfl | rfl⟩
    · rw [value_of_head? hs, value_of_head? hs]
      exact .refl _
    · rw [value_quote, value_quote]
      exact .refl _
    · refine comesTo_bracket (.inl rfl) fun left hleft ↦ ?_
      rw [hleft, Nat.add_right_comm]
      by_cases hclose : ∃ t, skipSpace r = ']' :: t
      · obtain ⟨t, ht⟩ := hclose
        simp only [value, ht]
        exact .refl _
      · have hs : ∀ t, skipSpace r ≠ ']' :: t := fun t ht ↦ hclose ⟨t, ht⟩
        rw [value_arr rfl hs, value_arr rfl hs]
        exact (value_more n left more _).bind fun _ ↦ (moreItems_more n left more _).bind fun _ ↦ .refl _
    · refine comesTo_bracket (.inr rfl) fun left hleft ↦ ?_
      rw [hleft, Nat.add_right_comm]
      by_cases hclose : ∃ t, skipSpace r = '}' :: t
      · obtain ⟨t, ht⟩ := hclose
        simp only [value, ht]
        exact .refl _
      · have hs : ∀ t, skipSpace r ≠ '}' :: t := fun t ht ↦ hclose ⟨t, ht⟩
        rw [value_obj rfl hs, value_obj rfl hs]
        exact (member_more n left more _).bind fun _ ↦ (moreMembers_more n left more _).bind fun _ ↦ .refl _

theorem moreItems_more : ∀ (n room more : Nat) (s : List Char),
    ComesTo (moreItems n room s) (moreItems n (room + more) s)
  | 0, room, more, s => by
    rw [moreItems, moreItems]
    exact .refl _
  | n + 1, room, more, s => by
    by_cases hcomma : ∃ r, skipSpace s = ',' :: r
    · obtain ⟨r, hr⟩ := hcomma
      rw [moreItems_comma hr, moreItems_comma hr]
      exact (value_more n room more _).bind fun _ ↦ (moreItems_more n room more _).bind fun _ ↦ .refl _
    · rw [moreItems, moreItems]
      split
      · exact .refl _
      · exact absurd ⟨_, ‹_›⟩ hcomma
      · exact .refl _

theorem member_more : ∀ (n room more : Nat) (s : List Char), ComesTo (member n room s) (member n (room + more) s)
  | 0, room, more, s => by
    rw [member, member]
    exact .refl _
  | n + 1, room, more, s => by
    by_cases hquote : ∃ r, s = '"' :: r
    · obtain ⟨r, rfl⟩ := hquote
      cases hk : string ('"' :: r) r with
      | error x =>
        simp only [member, hk]
        exact .refl _
      | ok p =>
        obtain ⟨k, s⟩ := p
        by_cases hcolon : ∃ u, skipSpace s = ':' :: u
        · obtain ⟨u, hu⟩ := hcolon
          rw [member_colon hk hu, member_colon hk hu]
          exact (value_more n room more _).bind fun _ ↦ .refl _
        · simp only [member, hk]
          split
          · exact absurd ⟨_, ‹_›⟩ hcolon
          · exact .refl _
    · have hs : ∀ r, s = '"' :: r → False := fun r hr ↦ hquote ⟨r, hr⟩
      rw [member, member]
      · exact .refl _
      · exact hs
      · exact hs

theorem moreMembers_more : ∀ (n room more : Nat) (s : List Char),
    ComesTo (moreMembers n room s) (moreMembers n (room + more) s)
  | 0, room, more, s => by
    rw [moreMembers, moreMembers]
    exact .refl _
  | n + 1, room, more, s => by
    by_cases hcomma : ∃ r, skipSpace s = ',' :: r
    · obtain ⟨r, hr⟩ := hcomma
      rw [moreMembers_comma hr, moreMembers_comma hr]
      exact (member_more n room more _).bind fun _ ↦ (moreMembers_more n room more _).bind fun _ ↦ .refl _
    · rw [moreMembers, moreMembers]
      split
      · exact .refl _
      · exact absurd ⟨_, ‹_›⟩ hcomma
      · exact .refl _

end

section

variable {room limit : Nat} {text : List Char}

theorem document_more (room more : Nat) (text : List Char) :
    ComesTo (document room text) (document (room + more) text) := by
  by_cases hmark : ∃ t, text = '\uFEFF' :: t
  · obtain ⟨t, rfl⟩ := hmark
    rw [document, document]
    exact .refl _
  · have hne : ∀ t, text ≠ '\uFEFF' :: t := fun t ht ↦ hmark ⟨t, ht⟩
    rw [document_eq_bind hne, document_eq_bind hne]
    exact (value_more _ room more _).bind fun _ ↦ .refl _

/-! ## The limit to the nesting -/

theorem parseWithin_of_ok {v : Json} (h : document room text = .ok v) : parseWithin room text = some (.ok v) := by
  rw [parseWithin, h]

theorem parseWithin_of_error {x : Refusal} (h : document room text = .error x) :
    parseWithin room text = (x.toError? text).map .error := by
  rw [parseWithin, h]

/-- With more room, a text that was not given up is read alike. -/
theorem parseWithin_of_le {more : Nat} {r : Except ReadError Json} (hle : room ≤ more)
    (h : parseWithin room text = some r) : parseWithin more text = some r := by
  obtain ⟨k, rfl⟩ := Nat.exists_eq_add_of_le hle
  rcases document_more room k text with hdoc | hdoc
  · rw [parseWithin_of_error hdoc] at h
    cases h
  · rwa [parseWithin, ← hdoc]

/-- The texts that are given up are those that meet a bracket beyond the limit. -/
theorem parseWithin_eq_none_iff : parseWithin limit text = none ↔ MeetsDeepNesting limit text := by
  have hd := explains_document limit text
  constructor
  · intro h
    cases hdoc : document limit text with
    | ok v =>
      rw [parseWithin_of_ok hdoc] at h
      cases h
    | error x =>
      rw [hdoc] at hd
      rw [parseWithin_of_error hdoc] at h
      cases x with
      | tooDeep => exact hd.meets_of_error (o := .nesting)
      | longInteger => cases h
      | fault cause rest => cases h
  · intro h
    have hdoc : document limit text = .error .tooDeep := by
      rcases document_meets (o := .nesting) h with hdoc | hdoc <;> exact hdoc
    rw [parseWithin_of_error hdoc]
    rfl

mutual

/-- Each open bracket stands in the text. -/
theorem Meets.lt {limit : Nat} : ∀ {depth : Nat} {s : List Char}, Meets (BeginsDeep limit) depth s →
    limit < depth + s.length
  | _, _, .here h => by
    cases h <;> exact Nat.lt_add_of_pos_right (Nat.succ_pos _)
  | _, _, .item _ h => by
    have hlt := h.lt
    rw [List.length_cons, List.length_append]
    omega
  | _, _, .items _ _ h => by
    have hlt := h.lt
    rw [List.length_cons, List.length_append, List.length_append]
    omega
  | _, _, .member _ h => by
    have hlt := h.lt
    rw [List.length_cons, List.length_append]
    omega
  | _, _, .members _ _ h => by
    have hlt := h.lt
    rw [List.length_cons, List.length_append, List.length_append]
    omega

theorem MeetsInItems.lt {limit : Nat} : ∀ {depth : Nat} {s : List Char}, MeetsInItems (BeginsDeep limit) depth s →
    limit < depth + s.length
  | _, _, .here _ _ h => by
    have hlt := h.lt
    rw [List.length_append, List.length_cons, List.length_append]
    omega
  | _, _, .later _ _ _ h => by
    have hlt := h.lt
    rw [List.length_append, List.length_cons, List.length_append, List.length_append]
    omega

theorem MeetsInMember.lt {limit : Nat} : ∀ {depth : Nat} {s : List Char}, MeetsInMember (BeginsDeep limit) depth s →
    limit < depth + s.length
  | _, _, .mk _ _ _ _ h => by
    have hlt := h.lt
    rw [List.length_append, List.length_append, List.length_cons, List.length_append]
    omega

theorem MeetsInMembers.lt {limit : Nat} : ∀ {depth : Nat} {s : List Char},
    MeetsInMembers (BeginsDeep limit) depth s → limit < depth + s.length
  | _, _, .here _ _ h => by
    have hlt := h.lt
    rw [List.length_append, List.length_cons, List.length_append]
    omega
  | _, _, .later _ _ _ h => by
    have hlt := h.lt
    rw [List.length_append, List.length_cons, List.length_append, List.length_append]
    omega

end

/-- There is room for as many brackets as the text has characters. -/
theorem not_meetsDeepNesting (text : List Char) : ¬ MeetsDeepNesting text.length text := by
  rintro ⟨w, s, -, hs, rfl⟩
  have hlt := hs.lt
  rw [List.length_append] at hlt
  omega

theorem document_length_ne_tooDeep (text : List Char) : document text.length text ≠ .error .tooDeep := by
  intro h
  have hnone : parseWithin text.length text = none := parseWithin_of_error h
  exact not_meetsDeepNesting text (parseWithin_eq_none_iff.1 hnone)

theorem parse_eq_iff {r : Except ReadError Json} : parse text = r ↔ parseWithin text.length text = some r := by
  rw [parse]
  cases h : parseWithin text.length text with
  | none => exact absurd (parseWithin_eq_none_iff.1 h) (not_meetsDeepNesting text)
  | some r' => rw [Option.getD_some, Option.some.injEq]

/-- A text that is not given up is read like without a limit. -/
theorem parseWithin_eq_some_iff {r : Except ReadError Json} :
    parseWithin limit text = some r ↔ parse text = r ∧ ¬ MeetsDeepNesting limit text := by
  have hmore : ∀ {r}, parseWithin limit text = some r → parse text = r := by
    intro r h
    rcases Nat.le_total limit text.length with hle | hle
    · exact parse_eq_iff.2 (parseWithin_of_le hle h)
    · have hparse := parseWithin_of_le hle (parse_eq_iff.1 rfl)
      rw [h] at hparse
      exact (Option.some.inj hparse).symm
  constructor
  · intro h
    refine ⟨hmore h, fun hm ↦ ?_⟩
    rw [parseWithin_eq_none_iff.2 hm] at h
    cases h
  · rintro ⟨rfl, hm⟩
    cases h : parseWithin limit text with
    | none => exact absurd (parseWithin_eq_none_iff.1 h) hm
    | some r => rw [hmore h]

/-! ## Without a limit -/

/-- The texts that are read as a value are those that denote it with all integers within the limit. -/
theorem parse_eq_ok_iff {v : Json} : parse text = .ok v ↔ IsDocument IsShort v text := by
  rw [parse_eq_iff]
  constructor
  · intro h
    have hd := explains_document text.length text
    cases hdoc : document text.length text with
    | ok v' =>
      rw [parseWithin_of_ok hdoc] at h
      cases h
      rw [hdoc] at hd
      obtain ⟨t, ht, htext⟩ := hd.exists_of_ok
      rwa [htext, List.append_nil]
    | error x =>
      rw [parseWithin_of_error hdoc] at h
      cases x <;> cases h
  · intro h
    rcases document_isDocument h with hdoc | hdoc
    · exact absurd hdoc (document_length_ne_tooDeep text)
    · exact parseWithin_of_ok hdoc

/-- The texts that are refused for an integer are those that meet one beyond the limit. -/
theorem parse_eq_longInteger_iff : parse text = .error .longInteger ↔ MeetsLongInteger text := by
  rw [parse_eq_iff]
  constructor
  · intro h
    have hd := explains_document text.length text
    cases hdoc : document text.length text with
    | ok v' =>
      rw [parseWithin_of_ok hdoc] at h
      cases h
    | error x =>
      rw [parseWithin_of_error hdoc] at h
      rw [hdoc] at hd
      cases x with
      | longInteger => exact hd.meets_of_error (o := .longInteger)
      | tooDeep => cases h
      | fault cause rest => cases h
  · intro h
    rcases document_meets (o := .longInteger) h with hdoc | hdoc
    · exact absurd hdoc (document_length_ne_tooDeep text)
    · exact parseWithin_of_error hdoc

/-- A text denotes a value within the limit just if it denotes it at all and meets no integer beyond the limit. -/
theorem isDocument_isShort_iff {v : Json} :
    IsDocument IsShort v text ↔ IsDocument AnyLength v text ∧ ¬ MeetsLongInteger text := by
  constructor
  · intro h
    refine ⟨h.mono fun _ _ ↦ trivial, fun hm ↦ ?_⟩
    have hparse := parse_eq_ok_iff.2 h
    rw [parse_eq_longInteger_iff.2 hm] at hparse
    cases hparse
  · rintro ⟨h, hm⟩
    exact h.isShort_or_meetsLong.resolve_right hm

/-- The other texts have a fault. -/
theorem exists_parse_eq_fault_iff :
    (∃ f, parse text = .error (.fault f)) ↔ (∀ v, ¬ IsDocument AnyLength v text) ∧ ¬ MeetsLongInteger text := by
  cases h : parse text with
  | ok v =>
    have hd := (isDocument_isShort_iff.1 (parse_eq_ok_iff.1 h)).1
    exact iff_of_false (fun ⟨_, hf⟩ ↦ nomatch hf) fun ⟨hv, _⟩ ↦ hv v hd
  | error e =>
    cases e with
    | longInteger => exact iff_of_false (fun ⟨_, hf⟩ ↦ nomatch hf) fun ⟨_, hm⟩ ↦ hm (parse_eq_longInteger_iff.1 h)
    | fault f =>
      have hm : ¬ MeetsLongInteger text := by
        rw [← parse_eq_longInteger_iff, h]
        exact nofun
      refine iff_of_true ⟨f, rfl⟩ ⟨fun v hv ↦ ?_, hm⟩
      rw [parse_eq_ok_iff.2 (isDocument_isShort_iff.2 ⟨hv, hm⟩)] at h
      cases h

end

/-! ## Spelled values -/

section

variable {v : Json} {w t w' : List Char}

/-- A text that spells a value between blanks is read as the value. -/
theorem parse_of_spells (hw : IsBlank w) (h : Spells v t) (hw' : IsBlank w') (hv : v.Each IsReadable) :
    parse (w ++ (t ++ w')) = .ok v :=
  parse_eq_ok_iff.2 ⟨w, t, w', hw, denotes_of_spells h hv, hw', rfl⟩

/-- The one-line text of a value is read as the value. -/
theorem parse_compact (hf : v.Each IsFloatFree) (hv : v.Each IsReadable) : parse v.compact = .ok v := by
  have h := parse_of_spells isBlank_nil (spells_compact hf) isBlank_nil hv
  rwa [List.nil_append, List.append_nil] at h

end

end ClusterMatrix.Json

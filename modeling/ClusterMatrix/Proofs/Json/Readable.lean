import ClusterMatrix.Proofs.Json.Documents

/-!
# What is read can be read again

The reader comes to readable values only: it refuses integers that are too long, and of several values for one key it
keeps the last.
-/

namespace ClusterMatrix.Json

/-! ## Objects -/

theorem mem_put {k : Text} {v : Json} {m : Text × Json} {ms : List (Text × Json)} (h : m ∈ put k v ms) :
    m = (k, v) ∨ m ∈ ms := by
  induction ms with
  | nil => exact .inl (List.mem_singleton.1 h)
  | cons m' ms ih =>
    rw [put] at h
    split at h
    · rcases List.mem_cons.1 h with h | h
      · exact .inl h
      · exact .inr (List.mem_cons_of_mem _ h)
    · rcases List.mem_cons.1 h with h | h
      · exact .inr (h ▸ List.mem_cons_self)
      · exact (ih h).imp_right (List.mem_cons_of_mem _)

/-- A key that gets a value comes once. -/
theorem nodup_put {k : Text} {v : Json} {ms : List (Text × Json)} (h : (ms.map Prod.fst).Nodup) :
    ((put k v ms).map Prod.fst).Nodup := by
  induction ms with
  | nil => exact List.pairwise_singleton _ k
  | cons m ms ih =>
    rw [List.map_cons, List.nodup_cons] at h
    rw [put]
    split
    · rename_i hk
      rw [List.map_cons, List.nodup_cons]
      exact ⟨hk ▸ h.1, h.2⟩
    · rename_i hk
      rw [List.map_cons, List.nodup_cons]
      refine ⟨fun hm ↦ ?_, ih h.2⟩
      obtain ⟨m', hm', he⟩ := List.mem_map.1 hm
      rcases mem_put hm' with rfl | hm'
      · exact hk he.symm
      · exact h.1 (he ▸ List.mem_map_of_mem hm')

/-- The keys of an object differ, and its values are among those that it is written with. -/
theorem membersOf_spec (pairs : List (Text × Json)) :
    ((membersOf pairs).map Prod.fst).Nodup ∧ ∀ m ∈ membersOf pairs, m ∈ pairs := by
  induction pairs using List.reverseRecOn with
  | nil => exact ⟨List.nodup_nil, fun m hm ↦ hm⟩
  | append_singleton pairs p ih =>
    rw [membersOf_concat]
    refine ⟨nodup_put ih.1, fun m hm ↦ ?_⟩
    rcases mem_put hm with rfl | hm
    · exact List.mem_append_right pairs List.mem_cons_self
    · exact List.mem_append_left [p] (ih.2 m hm)

/-! ## Values -/

theorem natAbs_signed (negative : Bool) (n : Nat) : (signed negative n).natAbs = n := by
  cases negative with
  | true => rw [signed, if_pos rfl, Int.natAbs_neg, Int.natAbs_natCast]
  | false => rw [signed, if_neg Bool.false_ne_true, Int.natAbs_natCast]

/-- Not too many digits write an integer that can be read again. -/
theorem isReadable_int {negative : Bool} {ds : List Char} (hw : IsWhole ds) (hl : IsShort ds.length) :
    IsReadable (.int (signed negative (Nat.ofDigitChars 10 ds 0))) := by
  rw [IsReadable, natAbs_signed, Nat.length_toDigits_le_iff (by decide) (by decide)]
  exact Nat.lt_of_lt_of_le (Text.ofDigitChars_zero_lt hw.isDigit) (Nat.pow_le_pow_right (by decide) hl)

theorem each_isReadable_word {t : List Char} {v : Json} (h : (t, v) ∈ words) : v.Each IsReadable := by
  simp only [words, List.mem_cons, Prod.mk.injEq, List.not_mem_nil, or_false] at h
  rcases h with ⟨-, rfl⟩ | ⟨-, rfl⟩ | ⟨-, rfl⟩ | ⟨-, rfl⟩ | ⟨-, rfl⟩ | ⟨-, rfl⟩
  all_goals
    rintro w ⟨⟩
    trivial

theorem each_isReadable_ofCodes (codes : List Nat) : (ofCodes codes).Each IsReadable := by
  rw [ofCodes]
  cases Text.ofCodes codes <;> rintro w ⟨⟩ <;> trivial

mutual

/-- What is denoted with all integers within the limit can be read again. -/
theorem Denotes.isReadable : ∀ {v : Json} {t : List Char}, Denotes IsShort v t → v.Each IsReadable
  | _, _, .word h => each_isReadable_word h
  | _, _, .int hw hl => by
    rintro w ⟨⟩
    exact isReadable_int hw hl
  | _, _, .float _ _ _ _ => by
    rintro w ⟨⟩
    trivial
  | _, _, .text _ _ => each_isReadable_ofCodes _
  | _, _, .emptyArr _ => .arr trivial fun _ hv ↦ absurd hv List.not_mem_nil
  | _, _, .arr _ hv hvs => .arr trivial (List.forall_mem_cons.2 ⟨hv.isReadable, hvs.isReadable⟩)
  | _, _, .emptyObj _ => .obj List.nodup_nil fun _ hm ↦ absurd hm List.not_mem_nil
  | _, _, @Denotes.obj _ m ms _ _ _ _ hm hms => by
    have hall : ∀ m' ∈ m :: ms, m'.2.Each IsReadable := List.forall_mem_cons.2 ⟨hm.isReadable, hms.isReadable⟩
    obtain ⟨hkeys, hsub⟩ := membersOf_spec (m :: ms)
    exact .obj hkeys fun m' hm' ↦ hall m' (hsub m' hm')

theorem DenotesItems.isReadable : ∀ {vs : List Json} {t : List Char}, DenotesItems IsShort vs t →
    ∀ v ∈ vs, v.Each IsReadable
  | _, _, .nil _ => fun _ hv ↦ absurd hv List.not_mem_nil
  | _, _, .cons _ _ hv hvs => List.forall_mem_cons.2 ⟨hv.isReadable, hvs.isReadable⟩

theorem DenotesMember.isReadable : ∀ {m : Text × Json} {t : List Char}, DenotesMember IsShort m t →
    m.2.Each IsReadable
  | _, _, .mk _ _ _ _ hv => hv.isReadable

theorem DenotesMembers.isReadable : ∀ {ms : List (Text × Json)} {t : List Char}, DenotesMembers IsShort ms t →
    ∀ m ∈ ms, m.2.Each IsReadable
  | _, _, .nil _ => fun _ hm ↦ absurd hm List.not_mem_nil
  | _, _, .cons _ _ hm hms => List.forall_mem_cons.2 ⟨hm.isReadable, hms.isReadable⟩

end

/-- The value that a text is read as can be read again. -/
theorem isReadable_of_parse {text : List Char} {v : Json} (h : parse text = .ok v) : v.Each IsReadable := by
  obtain ⟨w, t, w', -, hv, -, -⟩ := parse_eq_ok_iff.1 h
  exact hv.isReadable

/-- Without floats, readable values are those that some text is read as. -/
theorem isReadable_iff_exists_parse {v : Json} (hf : v.Each IsFloatFree) :
    v.Each IsReadable ↔ ∃ text, parse text = .ok v := by
  constructor
  · intro hv
    exact ⟨v.compact, parse_compact hf hv⟩
  · rintro ⟨text, h⟩
    exact isReadable_of_parse h

end ClusterMatrix.Json

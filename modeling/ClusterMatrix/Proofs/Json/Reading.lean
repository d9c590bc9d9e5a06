import Mathlib.Data.List.Induction
import ClusterMatrix.Proofs.Json.Numbers
import ClusterMatrix.Proofs.Json.Strings

/-!
# Reading what the grammar allows

The reader reads every text that denotes a value within the limit for integers as that value, whatever stands behind the
text, if only a number does not go on there, and it refuses every text that meets an obstacle for it. Either way it may be
given up before for a bracket without room.

A text that spells a value denotes it if no integer is too long and the keys of each object differ.
-/

namespace ClusterMatrix.Json

/-! ## Values -/

/-- A text begins with a value or a key: its first character is no blank, closes nothing and is no byte order mark. -/
def BeginsValue (s : List Char) : Prop :=
  ∃ c u, s = c :: u ∧ isSpace c = false ∧ c ≠ ']' ∧ c ≠ '}' ∧ c ≠ '\uFEFF'

namespace BeginsValue

variable {s w : List Char}

theorem append (h : BeginsValue s) (t : List Char) : BeginsValue (s ++ t) := by
  obtain ⟨c, u, rfl, hc⟩ := h
  exact ⟨c, u ++ t, rfl, hc⟩

theorem skipSpace_append (h : BeginsValue s) (hw : IsBlank w) : skipSpace (w ++ s) = s := by
  obtain ⟨c, u, rfl, hspace, -⟩ := h
  exact skipSpace_append_cons hw hspace u

theorem ne_bracket (h : BeginsValue s) (t : List Char) : s ≠ ']' :: t := by
  obtain ⟨c, u, rfl, -, hc, -⟩ := h
  exact fun he ↦ hc (List.cons.inj he).1

theorem ne_brace (h : BeginsValue s) (t : List Char) : s ≠ '}' :: t := by
  obtain ⟨c, u, rfl, -, -, hc, -⟩ := h
  exact fun he ↦ hc (List.cons.inj he).1

/-- Behind blanks too, no byte order mark comes first. -/
theorem append_ne_mark (h : BeginsValue s) (hw : IsBlank w) (t : List Char) : w ++ s ≠ '\uFEFF' :: t := by
  obtain ⟨c, u, rfl, -, -, -, hc⟩ := h
  cases w with
  | nil => exact fun he ↦ hc (List.cons.inj he).1
  | cons d w =>
    intro he
    have hd := hw d List.mem_cons_self
    rw [(List.cons.inj he).1] at hd
    cases hd

end BeginsValue

theorem beginsValue_of_isDigit {c : Char} (hc : c.isDigit = true) (u : List Char) : BeginsValue (c :: u) := by
  refine ⟨c, u, rfl, ?_, ?_⟩
  · rw [← Bool.not_eq_true, isSpace_iff]
    rintro (rfl | rfl | rfl | rfl) <;> cases hc
  · refine ⟨?_, ?_, ?_⟩ <;> rintro rfl <;> cases hc

/-- The text of a number is a digit and more, perhaps behind a minus sign. -/
theorem exists_minus_append_eq (negative : Bool) {ds : List Char} (hw : IsWhole ds) (s : List Char) :
    ∃ c u, c.isDigit = true ∧
      (minus negative ++ (ds ++ s) = c :: u ∨ minus negative ++ (ds ++ s) = '-' :: c :: u) := by
  obtain ⟨c, t, rfl, hc⟩ := hw.exists_eq_cons
  refine ⟨c, t ++ s, hc, ?_⟩
  cases negative with
  | true => exact .inr rfl
  | false => exact .inl rfl

theorem beginsValue_number (negative : Bool) {ds : List Char} (hw : IsWhole ds) (s : List Char) :
    BeginsValue (minus negative ++ (ds ++ s)) := by
  obtain ⟨c, u, hc, h | h⟩ := exists_minus_append_eq negative hw s
  · exact h ▸ beginsValue_of_isDigit hc u
  · exact ⟨'-', c :: u, h, rfl, by decide⟩

theorem SpellsText.begins {codes : List Nat} {t : List Char} (h : SpellsText codes t) : BeginsValue t := by
  obtain ⟨u, -, rfl⟩ := h
  exact ⟨_, _, rfl, rfl, by decide⟩

section

variable {fits : Nat → Prop}

theorem Denotes.begins {v : Json} {t : List Char} (h : Denotes fits v t) : BeginsValue t := by
  cases h with
  | word h =>
    simp only [words, List.mem_cons, Prod.mk.injEq, List.not_mem_nil, or_false] at h
    rcases h with ⟨rfl, -⟩ | ⟨rfl, -⟩ | ⟨rfl, -⟩ | ⟨rfl, -⟩ | ⟨rfl, -⟩ | ⟨rfl, -⟩
    all_goals exact ⟨_, _, rfl, rfl, by decide⟩
  | @int negative ds hw _ =>
    have hb := beginsValue_number negative hw []
    rwa [List.append_nil] at hb
  | float hw _ _ _ => exact beginsValue_number _ hw _
  | text ht _ => exact ht.begins
  | emptyArr _ => exact ⟨_, _, rfl, rfl, by decide⟩
  | arr _ _ _ => exact ⟨_, _, rfl, rfl, by decide⟩
  | emptyObj _ => exact ⟨_, _, rfl, rfl, by decide⟩
  | obj _ _ _ => exact ⟨_, _, rfl, rfl, by decide⟩

theorem DenotesMember.begins {m : Text × Json} {t : List Char} (h : DenotesMember fits m t) : BeginsValue t := by
  cases h with
  | mk hk _ _ _ _ => exact hk.begins.append _

end

section

variable {limit depth : Nat} {o : Obstacle} {s : List Char}

theorem Obstacle.Begins.begins (h : o.Begins limit depth s) : BeginsValue s := by
  cases o with
  | longInteger =>
    obtain ⟨hw, -, -⟩ := h
    exact beginsValue_number _ hw _
  | nesting => cases h <;> exact ⟨_, _, rfl, rfl, by decide⟩

theorem Meets.begins (h : Meets (o.Begins limit) depth s) : BeginsValue s := by
  cases h with
  | here h => exact h.begins
  | item _ _ => exact ⟨_, _, rfl, rfl, by decide⟩
  | items _ _ _ => exact ⟨_, _, rfl, rfl, by decide⟩
  | member _ _ => exact ⟨_, _, rfl, rfl, by decide⟩
  | members _ _ _ => exact ⟨_, _, rfl, rfl, by decide⟩

theorem MeetsInMember.begins (h : MeetsInMember (o.Begins limit) depth s) : BeginsValue s := by
  cases h with
  | mk hk _ _ _ _ => exact hk.begins.append _

end

/-! ## Room -/

/-- Reading comes to the given result, or it was given up for a bracket without room. -/
def ComesTo {A : Type} (x y : Except Refusal A) : Prop := x = .error .tooDeep ∨ x = y

namespace ComesTo

variable {A B : Type} {x y : Except Refusal A} {f g : A → Except Refusal B} {z : Except Refusal B}

theorem refl (x : Except Refusal A) : ComesTo x x := .inr rfl

theorem bind (h : ComesTo x y) (hfg : ∀ a, ComesTo (f a) (g a)) : ComesTo (x.bind f) (y.bind g) := by
  rcases h with rfl | rfl
  · exact .inl rfl
  · cases x with
    | error e => exact refl _
    | ok a => exact hfg a

theorem bind_ok {a : A} (h : ComesTo x (.ok a)) (hf : ComesTo (f a) z) : ComesTo (x.bind f) z := by
  rcases h with rfl | rfl
  · exact .inl rfl
  · exact hf

theorem bind_error {e : Refusal} (h : ComesTo x (.error e)) : ComesTo (x.bind f) (.error e) := by
  rcases h with rfl | rfl
  · exact .inl rfl
  · exact .inr rfl

end ComesTo

/-! ## The readers -/

theorem head_cases (s : List Char) :
    (∀ c ∈ s.head?, c ≠ '"' ∧ c ≠ '[' ∧ c ≠ '{') ∨ ∃ r, s = '"' :: r ∨ s = '[' :: r ∨ s = '{' :: r := by
  cases s with
  | nil => exact .inl nofun
  | cons c r =>
    by_cases hc : c ≠ '"' ∧ c ≠ '[' ∧ c ≠ '{'
    · left
      rintro d ⟨⟩
      exact hc
    · simp only [not_and_or, not_not] at hc
      right
      rcases hc with rfl | rfl | rfl
      · exact ⟨r, .inl rfl⟩
      · exact ⟨r, .inr (.inl rfl)⟩
      · exact ⟨r, .inr (.inr rfl)⟩

/-- What begins neither a string nor an array nor an object is a word or a number. -/
theorem value_of_head? {n room : Nat} {s : List Char} (hs : ∀ c ∈ s.head?, c ≠ '"' ∧ c ≠ '[' ∧ c ≠ '{') :
    value (n + 1) room s = (word? s).elim (number s) .ok := by
  have hhead : ∀ {c r}, s = c :: r → c ≠ '"' ∧ c ≠ '[' ∧ c ≠ '{' := by
    rintro c r rfl
    exact hs c rfl
  rw [value]
  · cases word? s <;> rfl
  · exact fun r hr ↦ (hhead hr).1 rfl
  · exact fun r hr ↦ (hhead hr).2.1 rfl
  · exact fun r hr ↦ (hhead hr).2.2 rfl

theorem value_word {t : List Char} {v : Json} (h : (t, v) ∈ words) (n room : Nat) (rest : List Char) :
    value (n + 1) room (t ++ rest) = .ok (v, rest) := by
  simp only [words, List.mem_cons, Prod.mk.injEq, List.not_mem_nil, or_false] at h
  rcases h with ⟨rfl, rfl⟩ | ⟨rfl, rfl⟩ | ⟨rfl, rfl⟩ | ⟨rfl, rfl⟩ | ⟨rfl, rfl⟩ | ⟨rfl, rfl⟩
  all_goals
    rw [value_of_head? (by rintro c ⟨⟩; decide)]
    rfl

/-- What begins like a number is read as one. -/
theorem value_number (n room : Nat) (negative : Bool) {ds : List Char} (hw : IsWhole ds) (s : List Char) :
    value (n + 1) room (minus negative ++ (ds ++ s)) = number (minus negative ++ (ds ++ s)) := by
  obtain ⟨c, u, hc, h⟩ := exists_minus_append_eq negative hw s
  have hne : ∀ d : Char, d.isDigit = false → c ≠ d := by
    rintro d hd rfl
    rw [hc] at hd
    cases hd
  have hword : word? (minus negative ++ (ds ++ s)) = none := by
    rcases h with h | h
    · simp [h, word?, words, after?, (hne 'n' rfl).symm, (hne 't' rfl).symm, (hne 'f' rfl).symm, (hne 'N' rfl).symm,
        (hne 'I' rfl).symm, (hne '-' rfl).symm]
    · simp [h, word?, words, after?, (hne 'I' rfl).symm]
  rw [value_of_head?, hword]
  · rfl
  · rcases h with h | h
    · rw [h]
      rintro d ⟨⟩
      exact ⟨hne _ rfl, hne _ rfl, hne _ rfl⟩
    · rw [h]
      rintro d ⟨⟩
      decide

section

variable {n room : Nat} {r s : List Char}

theorem value_quote : value (n + 1) room ('"' :: r) = (string ('"' :: r) r).bind fun p ↦ .ok (ofText p.1, p.2) := by
  rw [value]
  cases string ('"' :: r) r <;> rfl

/-- Without room no bracket is opened. -/
theorem value_bracket_zero {c : Char} (hc : c = '[' ∨ c = '{') (n : Nat) (r : List Char) :
    value (n + 1) 0 (c :: r) = .error .tooDeep := by
  rcases hc with rfl | rfl <;> rw [value]

/-- A bracket takes room. -/
theorem comesTo_bracket {c : Char} (hc : c = '[' ∨ c = '{') {x : Reading Json}
    (h : ∀ left, room = left + 1 → ComesTo (value (n + 1) (left + 1) (c :: r)) x) :
    ComesTo (value (n + 1) room (c :: r)) x := by
  cases room with
  | zero => exact .inl (value_bracket_zero hc n r)
  | succ left => exact h left rfl

theorem value_arr (hr : skipSpace r = s) (hs : ∀ t, s ≠ ']' :: t) :
    value (n + 1) (room + 1) ('[' :: r) =
      (value n room s).bind fun p ↦ (moreItems n room p.2).bind fun q ↦ .ok (.arr (p.1 :: q.1), q.2) := by
  subst hr
  rw [value]
  split
  · rename_i t h
    exact absurd h (hs t)
  · cases value n room (skipSpace r) with
    | error x => rfl
    | ok p =>
      dsimp only [Except.bind]
      cases moreItems n room p.2 <;> rfl

theorem value_obj (hr : skipSpace r = s) (hs : ∀ t, s ≠ '}' :: t) :
    value (n + 1) (room + 1) ('{' :: r) =
      (member n room s).bind fun p ↦ (moreMembers n room p.2).bind fun q ↦ .ok (.obj (membersOf (p.1 :: q.1)), q.2) := by
  subst hr
  rw [value]
  split
  · rename_i t h
    exact absurd h (hs t)
  · cases member n room (skipSpace r) with
    | error x => rfl
    | ok p =>
      dsimp only [Except.bind]
      cases moreMembers n room p.2 <;> rfl

theorem moreItems_comma (hs : skipSpace s = ',' :: r) :
    moreItems (n + 1) room s =
      (value n room (skipSpace r)).bind fun p ↦ (moreItems n room p.2).bind fun q ↦ .ok (p.1 :: q.1, q.2) := by
  simp only [moreItems, hs]
  cases value n room (skipSpace r) with
  | error x => rfl
  | ok p =>
    dsimp only [Except.bind]
    cases moreItems n room p.2 <;> rfl

theorem moreMembers_comma (hs : skipSpace s = ',' :: r) :
    moreMembers (n + 1) room s =
      (member n room (skipSpace r)).bind fun p ↦ (moreMembers n room p.2).bind fun q ↦ .ok (p.1 :: q.1, q.2) := by
  simp only [moreMembers, hs]
  cases member n room (skipSpace r) with
  | error x => rfl
  | ok p =>
    dsimp only [Except.bind]
    cases moreMembers n room p.2 <;> rfl

theorem member_colon {k : Text} {u : List Char} (hk : string ('"' :: r) r = .ok (k, s)) (hs : skipSpace s = ':' :: u) :
    member (n + 1) room ('"' :: r) = (value n room (skipSpace u)).bind fun p ↦ .ok ((k, p.1), p.2) := by
  simp only [member, hk, hs]
  cases value n room (skipSpace u) <;> rfl

end

/-! The bound falls with every call, and every call leaves a shorter text: a bound of its length suffices. -/

mutual

/-- A value within the limit is read up to what stands behind it. -/
theorem value_denotes : ∀ (n room : Nat) {v : Json} {t rest : List Char}, Denotes IsShort v t → t.length ≤ n →
    Stops rest → ComesTo (value n room (t ++ rest)) (.ok (v, rest))
  | 0, room, v, t, rest, h, hn, _ => by
    obtain ⟨c, u, rfl, -⟩ := h.begins
    exact absurd hn (Nat.not_succ_le_zero _)
  | n + 1, room, v, t, rest, h, hn, hr => by
    cases h with
    | word h => exact .inr (value_word h n room rest)
    | int hw hl =>
      rw [List.append_assoc, value_number n room _ hw, number_int hw hr.endsInteger, if_neg (Nat.not_lt.2 hl)]
      exact .refl _
    | float hw hp hx hne =>
      rw [List.append_assoc, List.append_assoc, List.append_assoc, value_number n room _ hw,
        number_float hw hp hx hne hr]
      exact .refl _
    | text ht hp =>
      obtain ⟨u, rfl, hu⟩ := string_of_spellsText ht hp
      rw [List.cons_append, value, hu]
      exact .refl _
    | emptyArr hw =>
      rw [List.cons_append, List.append_assoc]
      refine comesTo_bracket (.inl rfl) fun left _ ↦ ?_
      rw [value, List.singleton_append, skipSpace_append_cons hw rfl]
      exact .refl _
    | @arr v vs w s u hw hv hvs =>
      rw [List.length_cons, List.length_append, List.length_append] at hn
      have hb := hv.begins.append (u ++ rest)
      rw [List.cons_append, List.append_assoc, List.append_assoc]
      refine comesTo_bracket (.inl rfl) fun left _ ↦ ?_
      rw [value_arr (hb.skipSpace_append hw) hb.ne_bracket]
      refine (value_denotes n left hv (by omega) (hvs.stops rest)).bind_ok ?_
      exact (moreItems_denotes n left hvs (by omega)).bind_ok (.refl _)
    | emptyObj hw =>
      rw [List.cons_append, List.append_assoc]
      refine comesTo_bracket (.inr rfl) fun left _ ↦ ?_
      rw [value, List.singleton_append, skipSpace_append_cons hw rfl]
      exact .refl _
    | @obj m ms w s u hw hm hms =>
      rw [List.length_cons, List.length_append, List.length_append] at hn
      have hb := hm.begins.append (u ++ rest)
      rw [List.cons_append, List.append_assoc, List.append_assoc]
      refine comesTo_bracket (.inr rfl) fun left _ ↦ ?_
      rw [value_obj (hb.skipSpace_append hw) hb.ne_brace]
      refine (member_denotes n left hm (by omega) (hms.stops rest)).bind_ok ?_
      exact (moreMembers_denotes n left hms (by omega)).bind_ok (.refl _)

theorem moreItems_denotes : ∀ (n room : Nat) {vs : List Json} {t rest : List Char}, DenotesItems IsShort vs t →
    t.length ≤ n → ComesTo (moreItems n room (t ++ rest)) (.ok (vs, rest))
  | 0, room, vs, t, rest, h, hn => by
    cases h with
    | nil _ => simp at hn
    | cons _ _ _ _ => simp at hn
  | n + 1, room, vs, t, rest, h, hn => by
    cases h with
    | nil hw =>
      rw [List.append_assoc, moreItems, List.singleton_append, skipSpace_append_cons hw rfl]
      exact .refl _
    | @cons v vs w x s u hw hx hv hvs =>
      rw [List.length_append, List.length_cons, List.length_append, List.length_append] at hn
      have hb := hv.begins.append (u ++ rest)
      rw [List.append_assoc, List.cons_append, List.append_assoc, List.append_assoc,
        moreItems_comma (skipSpace_append_cons hw rfl _), hb.skipSpace_append hx]
      refine (value_denotes n room hv (by omega) (hvs.stops rest)).bind_ok ?_
      exact (moreItems_denotes n room hvs (by omega)).bind_ok (.refl _)

theorem member_denotes : ∀ (n room : Nat) {m : Text × Json} {t rest : List Char}, DenotesMember IsShort m t →
    t.length ≤ n → Stops rest → ComesTo (member n room (t ++ rest)) (.ok (m, rest))
  | 0, room, m, t, rest, h, hn, _ => by
    cases h with
    | mk _ _ _ _ _ => simp at hn
  | n + 1, room, m, t, rest, h, hn, hr => by
    cases h with
    | @mk codes v w x s t hk hp hw hx hv =>
      obtain ⟨u, rfl, hu⟩ := string_of_spellsText hk hp
      rw [List.length_append, List.length_cons, List.length_append, List.length_cons, List.length_append] at hn
      have hb := hv.begins.append rest
      rw [List.append_assoc, List.append_assoc, List.cons_append, List.cons_append, List.append_assoc,
        member_colon (hu _ _) (skipSpace_append_cons hw rfl _), hb.skipSpace_append hx]
      exact (value_denotes n room hv (by omega) hr).bind_ok (.refl _)

theorem moreMembers_denotes : ∀ (n room : Nat) {ms : List (Text × Json)} {t rest : List Char},
    DenotesMembers IsShort ms t → t.length ≤ n → ComesTo (moreMembers n room (t ++ rest)) (.ok (ms, rest))
  | 0, room, ms, t, rest, h, hn => by
    cases h with
    | nil _ => simp at hn
    | cons _ _ _ _ => simp at hn
  | n + 1, room, ms, t, rest, h, hn => by
    cases h with
    | nil hw =>
      rw [List.append_assoc, moreMembers, List.singleton_append, skipSpace_append_cons hw rfl]
      exact .refl _
    | @cons m ms w x s u hw hx hm hms =>
      rw [List.length_append, List.length_cons, List.length_append, List.length_append] at hn
      have hb := hm.begins.append (u ++ rest)
      rw [List.append_assoc, List.cons_append, List.append_assoc, List.append_assoc,
        moreMembers_comma (skipSpace_append_cons hw rfl _), hb.skipSpace_append hx]
      refine (member_denotes n room hm (by omega) (hms.stops rest)).bind_ok ?_
      exact (moreMembers_denotes n room hms (by omega)).bind_ok (.refl _)

end

section

variable {limit : Nat} {o : Obstacle}

/-- At the obstacle itself the text is refused: no room is left where as many brackets are open as the limit allows. -/
theorem value_begins {depth room : Nat} {s : List Char} (h : o.Begins limit depth s) (hroom : depth + room = limit)
    (n : Nat) : ComesTo (value (n + 1) room s) (.error o.refusal) := by
  cases o with
  | longInteger =>
    obtain ⟨hw, hl, hr⟩ := h
    rw [value_number n room _ hw, number_int hw hr, if_pos (Nat.lt_of_not_le hl)]
    exact .refl _
  | nesting =>
    have hnone : ∀ {depth}, depth + room = depth → room = 0 := fun h ↦ Nat.add_eq_left.1 h
    cases h with
    | arr s =>
      rw [hnone hroom, value_bracket_zero (.inl rfl)]
      exact .refl _
    | obj s =>
      rw [hnone hroom, value_bracket_zero (.inr rfl)]
      exact .refl _

mutual

/-- A text that meets an obstacle is refused there. -/
theorem value_meets : ∀ (n : Nat) {depth room : Nat} {s : List Char}, Meets (o.Begins limit) depth s →
    depth + room = limit → s.length ≤ n → ComesTo (value n room s) (.error o.refusal)
  | 0, depth, room, s, h, _, hn => by
    obtain ⟨c, u, rfl, -⟩ := h.begins
    exact absurd hn (Nat.not_succ_le_zero _)
  | n + 1, depth, room, s, h, hroom, hn => by
    cases h with
    | here h => exact value_begins h hroom n
    | item hw h =>
      rw [List.length_cons, List.length_append] at hn
      refine comesTo_bracket (.inl rfl) fun left hleft ↦ ?_
      rw [value_arr (h.begins.skipSpace_append hw) h.begins.ne_bracket]
      exact (value_meets n h (by omega) (by omega)).bind_error
    | @items _ v w s u hw hv h =>
      rw [List.length_cons, List.length_append, List.length_append] at hn
      have hb := hv.begins.append u
      refine comesTo_bracket (.inl rfl) fun left hleft ↦ ?_
      rw [value_arr (hb.skipSpace_append hw) hb.ne_bracket]
      refine (value_denotes n left hv (by omega) h.stops).bind_ok ?_
      exact (moreItems_meets n h (by omega) (by omega)).bind_error
    | member hw h =>
      rw [List.length_cons, List.length_append] at hn
      refine comesTo_bracket (.inr rfl) fun left hleft ↦ ?_
      rw [value_obj (h.begins.skipSpace_append hw) h.begins.ne_brace]
      exact (member_meets n h (by omega) (by omega)).bind_error
    | @members _ m w s u hw hm h =>
      rw [List.length_cons, List.length_append, List.length_append] at hn
      have hb := hm.begins.append u
      refine comesTo_bracket (.inr rfl) fun left hleft ↦ ?_
      rw [value_obj (hb.skipSpace_append hw) hb.ne_brace]
      refine (member_denotes n left hm (by omega) h.stops).bind_ok ?_
      exact (moreMembers_meets n h (by omega) (by omega)).bind_error

theorem moreItems_meets : ∀ (n : Nat) {depth room : Nat} {s : List Char}, MeetsInItems (o.Begins limit) depth s →
    depth + room = limit → s.length ≤ n → ComesTo (moreItems n room s) (.error o.refusal)
  | 0, depth, room, s, h, _, hn => by
    cases h with
    | here _ _ _ => simp at hn
    | later _ _ _ _ => simp at hn
  | n + 1, depth, room, s, h, hroom, hn => by
    cases h with
    | here hw hx h =>
      rw [List.length_append, List.length_cons, List.length_append] at hn
      rw [moreItems_comma (skipSpace_append_cons hw rfl _), h.begins.skipSpace_append hx]
      exact (value_meets n h hroom (by omega)).bind_error
    | @later _ v w x s u hw hx hv h =>
      rw [List.length_append, List.length_cons, List.length_append, List.length_append] at hn
      rw [moreItems_comma (skipSpace_append_cons hw rfl _), (hv.begins.append u).skipSpace_append hx]
      refine (value_denotes n room hv (by omega) h.stops).bind_ok ?_
      exact (moreItems_meets n h hroom (by omega)).bind_error

theorem member_meets : ∀ (n : Nat) {depth room : Nat} {s : List Char}, MeetsInMember (o.Begins limit) depth s →
    depth + room = limit → s.length ≤ n → ComesTo (member n room s) (.error o.refusal)
  | 0, depth, room, s, h, _, hn => by
    cases h with
    | mk _ _ _ _ _ => simp at hn
  | n + 1, depth, room, s, h, hroom, hn => by
    cases h with
    | @mk _ codes w x s t hk hp hw hx h =>
      obtain ⟨u, rfl, hu⟩ := string_of_spellsText hk hp
      rw [List.length_append, List.length_cons, List.length_append, List.length_cons, List.length_append] at hn
      rw [List.cons_append, member_colon (hu _ _) (skipSpace_append_cons hw rfl _), h.begins.skipSpace_append hx]
      exact (value_meets n h hroom (by omega)).bind_error

theorem moreMembers_meets : ∀ (n : Nat) {depth room : Nat} {s : List Char},
    MeetsInMembers (o.Begins limit) depth s → depth + room = limit → s.length ≤ n →
      ComesTo (moreMembers n room s) (.error o.refusal)
  | 0, depth, room, s, h, _, hn => by
    cases h with
    | here _ _ _ => simp at hn
    | later _ _ _ _ => simp at hn
  | n + 1, depth, room, s, h, hroom, hn => by
    cases h with
    | here hw hx h =>
      rw [List.length_append, List.length_cons, List.length_append] at hn
      rw [moreMembers_comma (skipSpace_append_cons hw rfl _), h.begins.skipSpace_append hx]
      exact (member_meets n h hroom (by omega)).bind_error
    | @later _ m w x s u hw hx hm h =>
      rw [List.length_append, List.length_cons, List.length_append, List.length_append] at hn
      rw [moreMembers_comma (skipSpace_append_cons hw rfl _), (hm.begins.append u).skipSpace_append hx]
      refine (member_denotes n room hm (by omega) h.stops).bind_ok ?_
      exact (moreMembers_meets n h hroom (by omega)).bind_error

end

end

/-! ## Documents -/

section

variable {room : Nat} {text : List Char}

/-- Without a byte order mark in front, a document is one value between blanks. -/
theorem document_eq_bind (h : ∀ t, text ≠ '\uFEFF' :: t) :
    document room text = (value (text.length + 1) room (skipSpace text)).bind fun p ↦ match skipSpace p.2 with
      | [] => .ok p.1
      | r => .error (.fault .extraData r) := by
  rw [document]
  · cases value (text.length + 1) room (skipSpace text) <;> rfl
  · exact h

/-- The reader reads all documents with integers within the limit. -/
theorem document_isDocument {v : Json} (h : IsDocument IsShort v text) : ComesTo (document room text) (.ok v) := by
  obtain ⟨w, t, w', hw, hv, hw', rfl⟩ := h
  have hlen : t.length ≤ (w ++ (t ++ w')).length + 1 := by
    rw [List.length_append, List.length_append]
    omega
  have hstops : Stops w' := by
    rw [← List.append_nil w']
    exact stops_of_isBlank hw' stops_nil
  have hb := hv.begins.append w'
  rw [document_eq_bind (hb.append_ne_mark hw), hb.skipSpace_append hw]
  refine (value_denotes _ room hv hlen hstops).bind_ok ?_
  dsimp only
  rw [skipSpace_blank hw']
  exact .refl _

/-- The reader refuses all documents that meet an obstacle. -/
theorem document_meets {o : Obstacle} (h : MeetsInDocument (o.Begins room) text) :
    ComesTo (document room text) (.error o.refusal) := by
  obtain ⟨w, s, hw, hs, rfl⟩ := h
  have hlen : s.length ≤ (w ++ s).length + 1 := by
    rw [List.length_append]
    omega
  rw [document_eq_bind (hs.begins.append_ne_mark hw), hs.begins.skipSpace_append hw]
  exact (value_meets _ hs (Nat.zero_add room) hlen).bind_error

end

/-! ## Spelled values -/

/-- An integer is not too long. -/
def IsShortInteger : Json → Prop
  | .int n => (Nat.toDigits 10 n.natAbs).length ≤ maxIntegerDigits
  | _ => True

instance : DecidablePred IsShortInteger
  | .int n => inferInstanceAs (Decidable ((Nat.toDigits 10 n.natAbs).length ≤ maxIntegerDigits))
  | .null | .bool _ | .float _ | .str _ | .ragged _ | .arr _ | .obj _ => .isTrue trivial

/-- No key of an object comes twice. -/
def HasDistinctKeys : Json → Prop
  | .obj ms => (ms.map Prod.fst).Nodup
  | _ => True

instance : DecidablePred HasDistinctKeys
  | .obj ms => inferInstanceAs (Decidable (ms.map Prod.fst).Nodup)
  | .null | .bool _ | .int _ | .float _ | .str _ | .ragged _ | .arr _ => .isTrue trivial

/-- A value that can be read again: an integer is not too long, and no key of an object comes twice. -/
def IsReadable : Json → Prop
  | .int n => (Nat.toDigits 10 n.natAbs).length ≤ maxIntegerDigits
  | .obj ms => (ms.map Prod.fst).Nodup
  | _ => True

theorem isReadable_iff {v : Json} : v.IsReadable ↔ v.IsShortInteger ∧ v.HasDistinctKeys := by
  cases v <;> simp [IsReadable, IsShortInteger, HasDistinctKeys]

theorem each_isReadable_iff {v : Json} : v.Each IsReadable ↔ v.Each IsShortInteger ∧ v.Each HasDistinctKeys := by
  simp only [Each, isReadable_iff]
  exact ⟨fun h ↦ ⟨fun w hw ↦ (h w hw).1, fun w hw ↦ (h w hw).2⟩, fun h w hw ↦ ⟨h.1 w hw, h.2 w hw⟩⟩

theorem membersOf_concat (pairs : List (Text × Json)) (p : Text × Json) :
    membersOf (pairs ++ [p]) = put p.1 p.2 (membersOf pairs) := by
  rw [membersOf, List.foldl_append, ← membersOf, List.foldl_cons, List.foldl_nil]

/-- An object whose keys differ has the members it is written with. -/
theorem membersOf_of_nodup {ms : List (Text × Json)} (h : (ms.map Prod.fst).Nodup) : membersOf ms = ms := by
  induction ms using List.reverseRecOn with
  | nil => rfl
  | append_singleton ms m ih =>
    rw [List.map_append, List.nodup_append] at h
    obtain ⟨hms, -, hm⟩ := h
    rw [membersOf_concat, ih hms, put_of_not_mem]
    intro hmem
    exact hm m.1 hmem m.1 List.mem_cons_self rfl

/-- The digits of a number begin with a zero only if there is no other. -/
theorem toDigits_cases (n : Nat) :
    Nat.toDigits 10 n = ['0'] ∨ ∃ c ds, Nat.toDigits 10 n = c :: ds ∧ c ≠ '0' := by
  induction n using Nat.strongRecOn with
  | ind n ih =>
    by_cases hn : n < 10
    · rw [Nat.toDigits_of_lt_base hn]
      by_cases h0 : n = 0
      · exact .inl (by rw [h0]; rfl)
      · exact .inr ⟨_, _, rfl, fun h ↦ h0 (Nat.digitChar_eq_zero.1 h)⟩
    · rw [Nat.not_lt] at hn
      rw [Nat.toDigits_of_base_le (by decide) hn]
      have hlt : n / 10 < n := by omega
      have hpos : n / 10 ≠ 0 := by omega
      rcases ih (n / 10) hlt with h | ⟨c, ds, h, hc⟩
      · have hz : Nat.ofDigitChars 10 (Nat.toDigits 10 (n / 10)) 0 = 0 := by
          rw [h]
          rfl
        rw [Nat.ofDigitChars_ten_toDigits] at hz
        exact absurd hz hpos
      · exact .inr ⟨c, ds ++ [Nat.digitChar (n % 10)], by rw [h, List.cons_append], hc⟩

theorem isWhole_toDigits (n : Nat) : IsWhole (Nat.toDigits 10 n) := by
  have hdigits : ∀ c ∈ Nat.toDigits 10 n, c.isDigit = true :=
    fun c hc ↦ Nat.isDigit_of_mem_toDigits (by decide) (by decide) hc
  rcases toDigits_cases n with h | ⟨c, ds, h, hc⟩
  · rw [h]
    exact .zero
  · rw [h] at hdigits ⊢
    exact .digits hc hdigits

section

variable {fits : Nat → Prop}

theorem denotes_intText {n : Int} (hn : fits (Nat.toDigits 10 n.natAbs).length) : Denotes fits (.int n) (intText n) := by
  rw [intText]
  split
  · rename_i hneg
    have hvalue : signed true n.natAbs = n := by
      rw [signed, if_pos rfl]
      omega
    have h : Denotes fits _ (minus true ++ Nat.toDigits 10 n.natAbs) := .int (isWhole_toDigits n.natAbs) hn
    rwa [Nat.ofDigitChars_ten_toDigits, hvalue] at h
  · rename_i hneg
    have hvalue : signed false n.natAbs = n := by
      rw [signed, if_neg Bool.false_ne_true]
      omega
    have h : Denotes fits _ (minus false ++ Nat.toDigits 10 n.natAbs) := .int (isWhole_toDigits n.natAbs) hn
    rwa [Nat.ofDigitChars_ten_toDigits, hvalue] at h

theorem denotes_text {x : Text} {t : List Char} (h : SpellsText x.codes t) : Denotes fits (ofText x) t := by
  have ht : Denotes fits (ofCodes x.codes) t := .text h x.hasPair_codes
  rwa [ofCodes, Text.ofCodes_codes] at ht

end

mutual

/-- A text that spells a readable value denotes it, with all integers within the limit. -/
theorem denotes_of_spells : ∀ {v : Json} {t : List Char}, Spells v t → v.Each IsReadable → Denotes IsShort v t
  | _, _, .null, _ => .word List.mem_cons_self
  | _, _, .bool b, _ => .word (by cases b <;> simp [words, wordText])
  | _, _, .int _, h => denotes_intText h.self
  | _, _, .str hs, _ => denotes_text (x := .whole _) hs
  | _, _, .ragged hs, _ => denotes_text (x := .ragged _) hs
  | _, _, .emptyArr hw, _ => .emptyArr hw
  | _, _, .arr hw hv hvs, h =>
    .arr hw (denotes_of_spells hv (h.item List.mem_cons_self))
      (denotesItems_of_spells hvs fun _ hm ↦ h.item (List.mem_cons_of_mem _ hm))
  | _, _, .emptyObj hw, _ => .emptyObj hw
  | _, _, .obj hw hm hms, h => by
    rw [← membersOf_of_nodup h.self]
    exact .obj hw (denotesMember_of_spells hm (h.member List.mem_cons_self))
      (denotesMembers_of_spells hms fun _ hm ↦ h.member (List.mem_cons_of_mem _ hm))

theorem denotesItems_of_spells : ∀ {vs : List Json} {t : List Char}, SpellsItems vs t →
    (∀ v ∈ vs, v.Each IsReadable) → DenotesItems IsShort vs t
  | _, _, .nil hw, _ => .nil hw
  | _, _, .cons hw hx hv hvs, h => by
    rw [List.forall_mem_cons] at h
    exact .cons hw hx (denotes_of_spells hv h.1) (denotesItems_of_spells hvs h.2)

theorem denotesMember_of_spells : ∀ {m : Text × Json} {t : List Char}, SpellsMember m t →
    m.2.Each IsReadable → DenotesMember IsShort m t
  | _, _, @SpellsMember.mk k _ _ _ _ _ hk hw hx hv, h => by
    have hm := DenotesMember.mk hk k.hasPair_codes hw hx (denotes_of_spells hv h)
    rwa [Text.ofCodes_codes] at hm

theorem denotesMembers_of_spells : ∀ {ms : List (Text × Json)} {t : List Char}, SpellsMembers ms t →
    (∀ m ∈ ms, m.2.Each IsReadable) → DenotesMembers IsShort ms t
  | _, _, .nil hw, _ => .nil hw
  | _, _, .cons hw hx hm hms, h => by
    rw [List.forall_mem_cons] at h
    exact .cons hw hx (denotesMember_of_spells hm h.1) (denotesMembers_of_spells hms h.2)

end

end ClusterMatrix.Json

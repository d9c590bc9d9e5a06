import Mathlib.Data.List.Basic
import ClusterMatrix.Proofs.Json.Documents
import ClusterMatrix.Settings

/-!
# Names from a JSON text

What comes of the text that a user gives for the distributions is told by the grammar of values alone. The text of an
array of texts gives the set of these. All else is a misconfiguration, with two exceptions: reading stops at an integer
beyond the limit, and at a bracket that is nested deeper than an interpreter allows. Neither is reported as a
misconfiguration, whether or not the text is one of a value.
-/

namespace ClusterMatrix.Settings

open Json (AnyLength ComesTo Denotes DenotesItems IsDocument IsShort MeetsDeepNesting MeetsLongInteger ofText)

variable {limit : Nat} {raw : Option String} {text : String} {v : Json} {vs : List Json} {names : List Text}

/-! ## Arrays of texts -/

theorem texts?_eq_some_iff : texts? vs = some names ↔ vs = names.map ofText := by
  induction vs generalizing names with
  | nil =>
    rw [texts?, Option.some.injEq, eq_comm, eq_comm (a := []), List.map_eq_nil_iff]
  | cons v vs ih =>
    rw [texts?]
    constructor
    · intro h
      split at h
      · rename_i x xs hx hxs
        obtain rfl := Option.some.inj h
        rw [Json.toText?_eq_some_iff.1 hx, ih.1 hxs, List.map_cons]
      · cases h
    · intro h
      obtain ⟨x, xs, rfl, hx, hxs⟩ := List.map_eq_cons_iff.1 h.symm
      rw [← hx, Json.toText?_ofText, ih.2 hxs.symm]

theorem texts?_eq_none_iff : texts? vs = none ↔ ∃ v ∈ vs, ∀ x, v ≠ ofText x := by
  induction vs with
  | nil => exact ⟨nofun, fun ⟨_, hv, _⟩ ↦ absurd hv List.not_mem_nil⟩
  | cons v vs ih =>
    rw [List.exists_mem_cons_iff, ← ih, texts?]
    cases hv : v.toText? with
    | none =>
      refine iff_of_true rfl (.inl fun x hx ↦ ?_)
      rw [Json.toText?_eq_some_iff.2 hx] at hv
      cases hv
    | some x =>
      have hx : ¬ ∀ y, v ≠ ofText y := fun h ↦ h x (Json.toText?_eq_some_iff.1 hv)
      cases texts? vs with
      | none => exact iff_of_true rfl (.inr rfl)
      | some xs => exact iff_of_false nofun (fun h ↦ h.elim hx nofun)

/-- The text of a text is read wherever it stands, without any room. -/
theorem value_ofText {fits : Nat → Prop} {x : Text} {t : List Char} (h : Denotes fits (ofText x) t) (n room : Nat)
    (rest : List Char) : Json.value (n + 1) room (t ++ rest) = .ok (ofText x, rest) := by
  -- The constructor of texts does not tell what kind of value it makes, so the value is named first.
  generalize ha : ofText x = v at h
  cases h with
  | word h => exact Json.value_word h n room rest
  | text ht hp =>
    obtain ⟨u, rfl, hu⟩ := Json.string_of_spellsText ht hp
    rw [List.cons_append, Json.value_quote, hu]
    rfl
  | _ => exact absurd ha (Json.ofText_ne rfl x)

theorem moreItems_ofTexts {fits : Nat → Prop} {n : Nat} {t : List Char} (h : DenotesItems fits (names.map ofText) t)
    (hn : t.length ≤ n) (room : Nat) (rest : List Char) :
    Json.moreItems n room (t ++ rest) = .ok (names.map ofText, rest) := by
  induction names generalizing n t with
  | nil =>
    cases h with
    | nil hw =>
      cases n with
      | zero => simp at hn
      | succ n =>
        rw [List.append_assoc, Json.moreItems, List.singleton_append, Json.skipSpace_append_cons hw rfl]
        rfl
  | cons x names ih =>
    cases h with
    | @cons _ _ w b s u hw hb hx hitems =>
      have hbegins := hx.begins
      obtain ⟨c, s', hs, -⟩ := hbegins
      rw [List.length_append, List.length_cons, List.length_append, List.length_append, hs, List.length_cons] at hn
      obtain ⟨n, rfl⟩ := Nat.exists_eq_add_of_le' (show 2 ≤ n by omega)
      rw [List.append_assoc, List.cons_append, List.append_assoc, List.append_assoc,
        Json.moreItems_comma (Json.skipSpace_append_cons hw rfl _), (hx.begins.append _).skipSpace_append hb,
        value_ofText hx]
      dsimp only [Except.bind]
      rw [ih hitems (by omega)]
      rfl

theorem value_ofTexts {fits : Nat → Prop} {n : Nat} {t rest : List Char}
    (h : Denotes fits (.arr (names.map ofText)) t) (hn : t.length ≤ n) (room : Nat) :
    Json.value n (room + 1) (t ++ rest) = .ok (.arr (names.map ofText), rest) := by
  obtain ⟨n, rfl⟩ : ∃ m, n = m + 1 := by
    obtain ⟨c, u, rfl, -⟩ := h.begins
    exact ⟨n - 1, by rw [List.length_cons] at hn; omega⟩
  generalize ha : Json.arr (names.map ofText) = a at h
  cases h with
  | word hm => exact Json.value_word hm n (room + 1) rest
  | text _ _ => exact absurd ha.symm (Json.ofText_ne rfl _)
  | emptyArr hw =>
    rw [List.cons_append, List.append_assoc, Json.value, List.singleton_append, Json.skipSpace_append_cons hw rfl]
    rfl
  | @arr v vs w s u hw hv hitems =>
    obtain ⟨x, xs, rfl, rfl, rfl⟩ := List.map_eq_cons_iff.1 (Json.arr.inj ha)
    have hb := hv.begins.append (u ++ rest)
    rw [List.length_cons, List.length_append, List.length_append] at hn
    obtain ⟨c, s', hs, -⟩ := hv.begins
    obtain ⟨n, rfl⟩ : ∃ m, n = m + 1 := ⟨n - 1, by rw [hs, List.length_cons] at hn; omega⟩
    rw [List.cons_append, List.append_assoc, List.append_assoc, Json.value_arr (hb.skipSpace_append hw) hb.ne_bracket,
      value_ofText hv]
    dsimp only [Except.bind]
    rw [moreItems_ofTexts hitems (by omega)]
  | _ => cases ha

/-- Without integers and brackets among its items, an array is read as soon as there is room for one. -/
theorem document_ofTexts {fits : Nat → Prop} {s : List Char} (h : IsDocument fits (.arr (names.map ofText)) s)
    (room : Nat) : Json.document (room + 1) s = .ok (.arr (names.map ofText)) := by
  obtain ⟨w, t, w', hw, ht, hw', rfl⟩ := h
  have hlen : t.length ≤ (w ++ (t ++ w')).length + 1 := by
    rw [List.length_append, List.length_append]
    omega
  have hb := ht.begins.append w'
  rw [Json.document_eq_bind (hb.append_ne_mark hw), hb.skipSpace_append hw, value_ofTexts ht hlen]
  dsimp only [Except.bind]
  rw [Json.skipSpace_blank hw']

/-! ## Outcomes -/

theorem given?_of_ne_empty (h : text ≠ "") : given? (some text) = some text := by rw [given?, if_neg h]

theorem ne_empty_of_begins {w s t : List Char} (hs : Json.BeginsValue s) (h : text.toList = w ++ (s ++ t)) :
    text ≠ "" := by
  rintro rfl
  obtain ⟨c, u, rfl, -⟩ := hs
  have hlength := congrArg List.length h
  simp at hlength

/-- The text of a value is not empty. -/
theorem ne_empty_of_isDocument {fits : Nat → Prop} (h : IsDocument fits v text.toList) : text ≠ "" := by
  obtain ⟨w, t, w', -, ht, -, htext⟩ := h
  exact ne_empty_of_begins ht.begins htext

theorem ne_empty_of_meets {o : Json.Obstacle} (h : Json.MeetsInDocument (o.Begins limit) text.toList) : text ≠ "" := by
  obtain ⟨w, s, -, hs, htext⟩ := h
  rw [← List.append_nil s] at htext
  exact ne_empty_of_begins hs.begins htext

/-- A text that is not given up comes to what reading it without a limit comes to. -/
theorem parseDistributionsWithin_of_text (hne : text ≠ "") (hd : ¬ MeetsDeepNesting limit text.toList) :
    parseDistributionsWithin limit (some text) = some (namesOf (Json.parse text.toList)) := by
  rw [parseDistributionsWithin, given?_of_ne_empty hne]
  dsimp only
  rw [Json.parseWithin_eq_some_iff.2 ⟨rfl, hd⟩, Option.map_some]

theorem parseDistributionsWithin_eq_none_iff :
    parseDistributionsWithin limit raw = none ↔ ∃ text, raw = some text ∧ MeetsDeepNesting limit text.toList := by
  constructor
  · intro h
    rw [parseDistributionsWithin] at h
    cases hg : given? raw with
    | none =>
      rw [hg] at h
      cases h
    | some text =>
      rw [hg] at h
      dsimp only at h
      rw [Option.map_eq_none_iff, Json.parseWithin_eq_none_iff] at h
      exact ⟨text, (given?_eq_some_iff.1 hg).1, h⟩
  · rintro ⟨text, rfl, h⟩
    rw [parseDistributionsWithin, given?_of_ne_empty (ne_empty_of_meets (o := .nesting) h)]
    dsimp only
    rw [Json.parseWithin_eq_none_iff.2 h, Option.map_none]

/-- Nothing but the limit to the nesting tells the two apart. -/
theorem parseDistributions_of_within {r : Except Refusal AllowList} (h : parseDistributionsWithin limit raw = some r) :
    parseDistributions raw = r := by
  rw [parseDistributionsWithin] at h
  rw [parseDistributions]
  split at h
  · exact Option.some.inj h
  · rename_i text _
    rw [Option.map_eq_some_iff] at h
    obtain ⟨x, hx, rfl⟩ := h
    rw [(Json.parseWithin_eq_some_iff.1 hx).1]

theorem namesOf_of_texts (h : IsDocument IsShort (.arr (names.map ofText)) text.toList) :
    namesOf (Json.parse text.toList) = .ok (.ofList names) := by
  rw [Json.parse_eq_ok_iff.2 h, namesOf, texts?_eq_some_iff.2 rfl]

theorem namesOf_of_not_texts (h : IsDocument IsShort (.arr vs) text.toList) (hvs : ∃ v ∈ vs, ∀ x, v ≠ ofText x) :
    namesOf (Json.parse text.toList) = .error (.misconfigured .notTexts) := by
  rw [Json.parse_eq_ok_iff.2 h, namesOf, texts?_eq_none_iff.2 hvs]

theorem namesOf_of_ne_arr (h : IsDocument IsShort v text.toList) (hv : ∀ vs, v ≠ .arr vs) :
    namesOf (Json.parse text.toList) = .error (.misconfigured .notArray) := by
  rw [Json.parse_eq_ok_iff.2 h]
  cases v with
  | arr vs => exact absurd rfl (hv vs)
  | _ => rfl

/-- What comes of a raw text, and why. -/
inductive Parsed (limit : Nat) (raw : Option String) : Option (Except Refusal AllowList) → Prop where
  | absent (h : given? raw = none) : Parsed limit raw (some (.error (.misconfigured .noDistributions)))
  | tooDeep {text : String} (hr : raw = some text) (hd : MeetsDeepNesting limit text.toList) : Parsed limit raw none
  | notJson {text : String} {f : Json.Fault} (hr : raw = some text) (hne : text ≠ "")
      (hd : ¬ MeetsDeepNesting limit text.toList) (h : Json.parse text.toList = .error (.fault f)) :
      Parsed limit raw (some (.error (.misconfigured (.notJson f))))
  | longInteger {text : String} (hr : raw = some text) (hd : ¬ MeetsDeepNesting limit text.toList)
      (h : MeetsLongInteger text.toList) : Parsed limit raw (some (.error .longInteger))
  | notArray {text : String} {v : Json} (hr : raw = some text) (hd : ¬ MeetsDeepNesting limit text.toList)
      (h : IsDocument IsShort v text.toList) (hv : ∀ vs, v ≠ .arr vs) :
      Parsed limit raw (some (.error (.misconfigured .notArray)))
  | notTexts {text : String} {vs : List Json} (hr : raw = some text) (hd : ¬ MeetsDeepNesting limit text.toList)
      (h : IsDocument IsShort (.arr vs) text.toList) (hvs : ∃ v ∈ vs, ∀ x, v ≠ ofText x) :
      Parsed limit raw (some (.error (.misconfigured .notTexts)))
  | names {text : String} {names : List Text} (hr : raw = some text) (hd : ¬ MeetsDeepNesting limit text.toList)
      (h : IsDocument IsShort (.arr (names.map ofText)) text.toList) : Parsed limit raw (some (.ok (.ofList names)))

theorem parsed (limit : Nat) (raw : Option String) : Parsed limit raw (parseDistributionsWithin limit raw) := by
  cases hg : given? raw with
  | none =>
    rw [parseDistributionsWithin, hg]
    exact .absent hg
  | some text =>
    obtain ⟨rfl, hne⟩ := given?_eq_some_iff.1 hg
    by_cases hd : MeetsDeepNesting limit text.toList
    · rw [parseDistributionsWithin_eq_none_iff.2 ⟨text, rfl, hd⟩]
      exact .tooDeep rfl hd
    · rw [parseDistributionsWithin_of_text hne hd]
      cases hp : Json.parse text.toList with
      | error e =>
        cases e with
        | fault f => exact .notJson rfl hne hd hp
        | longInteger => exact .longInteger rfl hd (Json.parse_eq_longInteger_iff.1 hp)
      | ok v =>
        have hv := Json.parse_eq_ok_iff.1 hp
        rw [← hp]
        by_cases ha : ∃ vs, v = .arr vs
        · obtain ⟨vs, rfl⟩ := ha
          cases hvs : texts? vs with
          | some names =>
            obtain rfl := texts?_eq_some_iff.1 hvs
            rw [namesOf_of_texts hv]
            exact .names rfl hd hv
          | none =>
            have hnone := texts?_eq_none_iff.1 hvs
            rw [namesOf_of_not_texts hv hnone]
            exact .notTexts rfl hd hv hnone
        · rw [not_exists] at ha
          rw [namesOf_of_ne_arr hv ha]
          exact .notArray rfl hd hv ha

theorem parsed_of_eq {r : Option (Except Refusal AllowList)} (h : parseDistributionsWithin limit raw = r) :
    Parsed limit raw r := h ▸ parsed limit raw

/-- What comes of a raw text under a limit to the nesting, told by the grammar alone. If the limit allows an array at all,
names are returned just for the texts of arrays of texts, and they are the set of these. The other texts, and none or an
empty one, are reported as misconfigurations, all but two kinds. Nothing comes of a text that meets a bracket beyond the
limit, and a text that meets an integer beyond its limit is refused for it. -/
structure ParsesNames (limit : Nat) (raw : Option String) (r : Option (Except Refusal AllowList)) : Prop where
  returned_iff : 0 < limit → ∀ allow : AllowList, r = some (.ok allow) ↔
    ∃ text vs, raw = some text ∧ IsDocument AnyLength (.arr vs) text.toList ∧ (∀ v ∈ vs, ∃ x, v = ofText x) ∧
      ∀ x : Text, x ∈ allow ↔ ofText x ∈ vs
  absent_iff : r = some (.error (.misconfigured .noDistributions)) ↔ raw = none ∨ raw = some ""
  notJson_iff : (∃ f, r = some (.error (.misconfigured (.notJson f)))) ↔
    ∃ text, raw = some text ∧ text ≠ "" ∧ (∀ v, ¬ IsDocument AnyLength v text.toList) ∧
      ¬ MeetsLongInteger text.toList ∧ ¬ MeetsDeepNesting limit text.toList
  notArray_iff : r = some (.error (.misconfigured .notArray)) ↔
    ∃ text v, raw = some text ∧ IsDocument AnyLength v text.toList ∧ (∀ vs, v ≠ .arr vs) ∧
      ¬ MeetsLongInteger text.toList ∧ ¬ MeetsDeepNesting limit text.toList
  notTexts_iff : r = some (.error (.misconfigured .notTexts)) ↔
    ∃ text vs, raw = some text ∧ IsDocument AnyLength (.arr vs) text.toList ∧ (∃ v ∈ vs, ∀ x, v ≠ ofText x) ∧
      ¬ MeetsLongInteger text.toList ∧ ¬ MeetsDeepNesting limit text.toList
  not_noCredential : r ≠ some (.error (.misconfigured .noCredential))
  longInteger_iff : r = some (.error .longInteger) ↔
    ∃ text, raw = some text ∧ MeetsLongInteger text.toList ∧ ¬ MeetsDeepNesting limit text.toList
  tooDeep_iff : r = none ↔ ∃ text, raw = some text ∧ MeetsDeepNesting limit text.toList
  unlimited : ∀ x, r = some x → parseDistributions raw = x

theorem mem_map_ofText {x : Text} : ofText x ∈ names.map ofText ↔ x ∈ names :=
  List.mem_map_of_injective fun _ _ h ↦ Json.ofText_inj.1 h

/-- A list of texts is the list of some names. -/
theorem exists_eq_map_ofText (h : ∀ v ∈ vs, ∃ x, v = ofText x) : ∃ names : List Text, vs = names.map ofText := by
  cases hvs : texts? vs with
  | some names => exact ⟨names, texts?_eq_some_iff.1 hvs⟩
  | none =>
    obtain ⟨v, hv, hne⟩ := texts?_eq_none_iff.1 hvs
    obtain ⟨x, hx⟩ := h v hv
    exact absurd hx (hne x)

theorem parseDistributionsWithin_of_texts (hl : 0 < limit)
    (h : IsDocument AnyLength (.arr (names.map ofText)) text.toList) :
    parseDistributionsWithin limit (some text) = some (.ok (.ofList names)) := by
  obtain ⟨room, rfl⟩ := Nat.exists_eq_add_of_le' hl
  have hp := Json.parseWithin_of_ok (document_ofTexts h room)
  rw [parseDistributionsWithin, given?_of_ne_empty (ne_empty_of_isDocument h)]
  dsimp only
  rw [hp, Option.map_some, namesOf, texts?_eq_some_iff.2 rfl]

theorem parseDistributionsWithin_eq_ok_iff (hl : 0 < limit) {allow : AllowList} :
    parseDistributionsWithin limit raw = some (.ok allow) ↔
      ∃ text vs, raw = some text ∧ IsDocument AnyLength (.arr vs) text.toList ∧ (∀ v ∈ vs, ∃ x, v = ofText x) ∧
        ∀ x : Text, x ∈ allow ↔ ofText x ∈ vs := by
  constructor
  · intro h
    cases parsed_of_eq h with
    | @names text names hr _ hv =>
      refine ⟨text, _, hr, (Json.isDocument_isShort_iff.1 hv).1, fun v hv ↦ ?_, fun x ↦ ?_⟩
      · obtain ⟨x, -, rfl⟩ := List.mem_map.1 hv
        exact ⟨x, rfl⟩
      · rw [AllowList.mem_ofList, mem_map_ofText]
  · rintro ⟨text, vs, rfl, h, hvs, hmem⟩
    obtain ⟨names, rfl⟩ := exists_eq_map_ofText hvs
    have hallow : AllowList.ofList names = allow := by
      ext x
      rw [AllowList.mem_ofList, hmem, mem_map_ofText]
    rw [parseDistributionsWithin_of_texts hl h, hallow]

theorem parseDistributionsWithin_eq_notJson_iff :
    (∃ f, parseDistributionsWithin limit raw = some (.error (.misconfigured (.notJson f)))) ↔
      ∃ text, raw = some text ∧ text ≠ "" ∧ (∀ v, ¬ IsDocument AnyLength v text.toList) ∧
        ¬ MeetsLongInteger text.toList ∧ ¬ MeetsDeepNesting limit text.toList := by
  constructor
  · rintro ⟨f, h⟩
    cases parsed_of_eq h with
    | notJson hr hne hd hf =>
      obtain ⟨hv, hm⟩ := Json.exists_parse_eq_fault_iff.1 ⟨f, hf⟩
      exact ⟨_, hr, hne, hv, hm, hd⟩
  · rintro ⟨text, rfl, hne, hv, hm, hd⟩
    obtain ⟨f, hf⟩ := Json.exists_parse_eq_fault_iff.2 ⟨hv, hm⟩
    refine ⟨f, ?_⟩
    rw [parseDistributionsWithin_of_text hne hd, hf, namesOf]

theorem parseDistributionsWithin_eq_notArray_iff :
    parseDistributionsWithin limit raw = some (.error (.misconfigured .notArray)) ↔
      ∃ text v, raw = some text ∧ IsDocument AnyLength v text.toList ∧ (∀ vs, v ≠ .arr vs) ∧
        ¬ MeetsLongInteger text.toList ∧ ¬ MeetsDeepNesting limit text.toList := by
  constructor
  · intro h
    cases parsed_of_eq h with
    | notArray hr hd hdoc hv =>
      obtain ⟨hany, hm⟩ := Json.isDocument_isShort_iff.1 hdoc
      exact ⟨_, _, hr, hany, hv, hm, hd⟩
  · rintro ⟨text, v, rfl, h, hv, hm, hd⟩
    rw [parseDistributionsWithin_of_text (ne_empty_of_isDocument h) hd,
      namesOf_of_ne_arr (Json.isDocument_isShort_iff.2 ⟨h, hm⟩) hv]

theorem parseDistributionsWithin_eq_notTexts_iff :
    parseDistributionsWithin limit raw = some (.error (.misconfigured .notTexts)) ↔
      ∃ text vs, raw = some text ∧ IsDocument AnyLength (.arr vs) text.toList ∧ (∃ v ∈ vs, ∀ x, v ≠ ofText x) ∧
        ¬ MeetsLongInteger text.toList ∧ ¬ MeetsDeepNesting limit text.toList := by
  constructor
  · intro h
    cases parsed_of_eq h with
    | notTexts hr hd hdoc hvs =>
      obtain ⟨hany, hm⟩ := Json.isDocument_isShort_iff.1 hdoc
      exact ⟨_, _, hr, hany, hvs, hm, hd⟩
  · rintro ⟨text, vs, rfl, h, hvs, hm, hd⟩
    rw [parseDistributionsWithin_of_text (ne_empty_of_isDocument h) hd,
      namesOf_of_not_texts (Json.isDocument_isShort_iff.2 ⟨h, hm⟩) hvs]

theorem parseDistributionsWithin_eq_longInteger_iff :
    parseDistributionsWithin limit raw = some (.error .longInteger) ↔
      ∃ text, raw = some text ∧ MeetsLongInteger text.toList ∧ ¬ MeetsDeepNesting limit text.toList := by
  constructor
  · intro h
    cases parsed_of_eq h with
    | longInteger hr hd hm => exact ⟨_, hr, hm, hd⟩
  · rintro ⟨text, rfl, hm, hd⟩
    have hne : text ≠ "" := @ne_empty_of_meets limit text .longInteger hm
    rw [parseDistributionsWithin_of_text hne hd, Json.parse_eq_longInteger_iff.2 hm, namesOf]

theorem parsesNames (limit : Nat) (raw : Option String) :
    ParsesNames limit raw (parseDistributionsWithin limit raw) where
  returned_iff hl _ := parseDistributionsWithin_eq_ok_iff hl
  absent_iff := by
    rw [← given?_eq_none_iff]
    constructor
    · intro h
      cases parsed_of_eq h with
      | absent hg => exact hg
    · intro hg
      rw [parseDistributionsWithin, hg]
  notJson_iff := parseDistributionsWithin_eq_notJson_iff
  notArray_iff := parseDistributionsWithin_eq_notArray_iff
  notTexts_iff := parseDistributionsWithin_eq_notTexts_iff
  not_noCredential := by
    intro h
    cases parsed_of_eq h
  longInteger_iff := parseDistributionsWithin_eq_longInteger_iff
  tooDeep_iff := parseDistributionsWithin_eq_none_iff
  unlimited _ := parseDistributions_of_within

/-! ## Arrays that are not reported -/

/-- An array of one integer, one digit longer than the limit. -/
def longArray : String := String.ofList ('[' :: (List.replicate (Json.maxIntegerDigits + 1) '1' ++ [']']))

theorem isWhole_ones (n : Nat) : Json.IsWhole (List.replicate (n + 1) '1') := by
  refine .digits (by decide) fun d hd ↦ ?_
  have h1 : d = '1' := List.eq_of_mem_replicate (n := n + 1) hd
  rw [h1]
  rfl

/-- Its only item is no text, but the array is not reported as a misconfiguration. -/
theorem parseDistributions_longArray :
    (∃ n, IsDocument AnyLength (.arr [.int n]) longArray.toList) ∧
      parseDistributions (some longArray) = .error .longInteger ∧
      ∀ why, parseDistributions (some longArray) ≠ .error (.misconfigured why) := by
  have hwhole := isWhole_ones Json.maxIntegerDigits
  have hlong : ¬ IsShort (List.replicate (Json.maxIntegerDigits + 1) '1').length := by
    rw [List.length_replicate]
    exact Nat.not_succ_le_self _
  have htext : longArray.toList = '[' :: (List.replicate (Json.maxIntegerDigits + 1) '1' ++ [']']) :=
    String.toList_ofList
  obtain ⟨n, hvalue⟩ : ∃ n, Denotes AnyLength (.arr [.int n]) longArray.toList := by
    rw [htext]
    exact ⟨_, .arr Json.isBlank_nil (@Denotes.int _ false _ hwhole trivial) (.nil Json.isBlank_nil)⟩
  have hones : Json.Meets (fun _ ↦ Json.BeginsLong) 1
      (Json.minus false ++ (List.replicate (Json.maxIntegerDigits + 1) '1' ++ [']'])) :=
    .here (.int hwhole hlong (Json.stops_cons (by decide) []).endsInteger)
  have hmeets : MeetsLongInteger longArray.toList :=
    ⟨[], _, Json.isBlank_nil, .item Json.isBlank_nil hones, htext⟩
  have hdoc : IsDocument AnyLength (.arr [.int n]) longArray.toList := by
    refine ⟨[], _, [], Json.isBlank_nil, hvalue, Json.isBlank_nil, ?_⟩
    rw [List.nil_append, List.append_nil]
  have hread : parseDistributions (some longArray) = .error .longInteger := by
    rw [parseDistributions, given?_of_ne_empty (ne_empty_of_isDocument hdoc)]
    dsimp only
    rw [Json.parse_eq_longInteger_iff.2 hmeets, namesOf]
  refine ⟨⟨n, hdoc⟩, hread, fun why hwhy ↦ ?_⟩
  rw [hread] at hwhy
  cases hwhy

/-- An empty array in as many others, each the only item of the next. -/
def nestedArrays : Nat → Json
  | 0 => .arr []
  | n + 1 => .arr [nestedArrays n]

def nestedBrackets (n : Nat) : List Char := List.replicate (n + 1) '[' ++ List.replicate (n + 1) ']'

theorem denotes_nestedBrackets (n : Nat) : Denotes AnyLength (nestedArrays n) (nestedBrackets n) := by
  induction n with
  | zero => exact .emptyArr Json.isBlank_nil
  | succ n ih =>
    have hclose : nestedBrackets (n + 1) = '[' :: ([] ++ (nestedBrackets n ++ ([] ++ [']']))) := by
      rw [nestedBrackets, nestedBrackets, List.replicate_succ, List.replicate_succ' (n := n + 1) (a := ']'),
        List.cons_append, List.nil_append, List.nil_append, List.append_assoc]
    rw [hclose]
    exact .arr Json.isBlank_nil ih (.nil Json.isBlank_nil)

theorem meets_brackets {depth : Nat} (n : Nat) (hn : depth + n = limit) (s : List Char) :
    Json.Meets (Json.BeginsDeep limit) depth (List.replicate (n + 1) '[' ++ s) := by
  induction n generalizing depth with
  | zero =>
    obtain rfl : depth = limit := hn
    exact .here (.arr s)
  | succ n ih =>
    have hnext : Json.Meets (Json.BeginsDeep limit) (depth + 1) (List.replicate (n + 1) '[' ++ s) := ih (by omega)
    exact .item (w := []) Json.isBlank_nil hnext

/-- Whatever the limit to the nesting is, the text of some array goes beyond it, and nothing comes of this text. -/
theorem exists_parseDistributionsWithin_eq_none (limit : Nat) :
    ∃ raw, IsDocument AnyLength (nestedArrays limit) raw.toList ∧
      parseDistributionsWithin limit (some raw) = none := by
  have htext : (String.ofList (nestedBrackets limit)).toList = nestedBrackets limit := String.toList_ofList
  refine ⟨String.ofList (nestedBrackets limit), ?_, parseDistributionsWithin_eq_none_iff.2 ⟨_, rfl, ?_⟩⟩
  · refine ⟨[], _, [], Json.isBlank_nil, denotes_nestedBrackets limit, Json.isBlank_nil, ?_⟩
    rw [htext, List.nil_append, List.append_nil]
  · exact ⟨[], _, Json.isBlank_nil, meets_brackets limit (Nat.zero_add limit) _, htext⟩

end ClusterMatrix.Settings

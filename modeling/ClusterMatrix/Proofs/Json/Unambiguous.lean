import ClusterMatrix.Proofs.Json.Reading

/-!
# One-line texts are unambiguous

Different values without floats have different one-line texts. The texts are compared with something behind them: the
first character tells the kind of a value, and a value of that kind says by itself where its text ends, but for a
number, which ends where no digit follows. No limit on integers plays a part in this.
-/

namespace ClusterMatrix.Json

variable {v w : Json} {r r' : List Char}

/-! ## Kinds -/

/-- What the first character tells of a value. -/
inductive Kind where
  | null
  | bool (b : Bool)
  | number
  | text
  | arr
  | obj

def kind : Json → Kind
  | .null => .null
  | .bool b => .bool b
  | .int _ => .number
  | .float _ => .number
  | .str _ => .text
  | .ragged _ => .text
  | .arr _ => .arr
  | .obj _ => .obj

def Kind.ofFirst : Char → Kind
  | 'n' => .null
  | 't' => .bool true
  | 'f' => .bool false
  | '"' => .text
  | '[' => .arr
  | '{' => .obj
  | _ => .number

theorem Kind.ofFirst_of_isDigit {c : Char} (hc : c.isDigit = true) : Kind.ofFirst c = .number := by
  unfold Kind.ofFirst
  split <;> first | rfl | cases hc

/-- The text of an integer is a digit and more, perhaps behind a minus sign. -/
theorem exists_intText_eq (n : Int) :
    ∃ c s, c.isDigit = true ∧ (intText n = c :: s ∨ intText n = '-' :: c :: s) := by
  obtain ⟨c, s, hcons, hc⟩ := (isWhole_toDigits n.natAbs).exists_eq_cons
  refine ⟨c, s, hc, ?_⟩
  rw [intText, hcons]
  split
  · exact .inr rfl
  · exact .inl rfl

theorem exists_compact_eq_cons (hv : v.IsFloatFree) :
    ∃ c u, v.compact = c :: u ∧ Kind.ofFirst c = v.kind ∧ c ≠ ']' := by
  cases v with
  | null => exact ⟨_, _, rfl, rfl, by decide⟩
  | bool b => cases b <;> exact ⟨_, _, rfl, rfl, by decide⟩
  | int n =>
    obtain ⟨c, s, hc, h | h⟩ := exists_intText_eq n
    · refine ⟨c, s, by rw [compact, h], Kind.ofFirst_of_isDigit hc, ?_⟩
      rintro rfl
      cases hc
    · exact ⟨'-', c :: s, by rw [compact, h], rfl, by decide⟩
  | float x => exact absurd hv id
  | str s => exact ⟨_, _, rfl, rfl, by decide⟩
  | ragged r => exact ⟨_, _, rfl, rfl, by decide⟩
  | arr vs => cases vs <;> exact ⟨_, _, rfl, rfl, by decide⟩
  | obj ms => cases ms <;> exact ⟨_, _, rfl, rfl, by decide⟩

theorem kind_eq_of_append (hv : v.IsFloatFree) (hw : w.IsFloatFree) (h : v.compact ++ r = w.compact ++ r') :
    v.kind = w.kind := by
  obtain ⟨c, u, hcu, hc, -⟩ := exists_compact_eq_cons hv
  obtain ⟨d, t, hdt, hd, -⟩ := exists_compact_eq_cons hw
  rw [hcu, hdt, List.cons_append, List.cons_append, List.cons.injEq] at h
  rw [← hc, ← hd, h.1]

/-! ## Numbers and texts -/

theorem toDigits_append_inj {m n : Nat} (hr : Stops r) (hr' : Stops r')
    (h : Nat.toDigits 10 m ++ r = Nat.toDigits 10 n ++ r') : m = n ∧ r = r' := by
  have hwhole := wholePart?_append (isWhole_toDigits m) hr.noDigit
  rw [h, wholePart?_append (isWhole_toDigits n) hr'.noDigit, Option.some.injEq, Prod.mk.injEq] at hwhole
  refine ⟨?_, hwhole.2.symm⟩
  rw [← Nat.ofDigitChars_ten_toDigits (n := m), ← hwhole.1, Nat.ofDigitChars_ten_toDigits]

/-- Digits do not begin with a sign. -/
theorem toDigits_append_ne {n : Nat} {s : List Char} : Nat.toDigits 10 n ++ r ≠ '-' :: s := by
  obtain ⟨c, ds, h, hc⟩ := (isWhole_toDigits n).exists_eq_cons
  intro he
  rw [h, List.cons_append, List.cons.injEq] at he
  rw [he.1] at hc
  cases hc

theorem intText_append_inj {m n : Int} (hr : Stops r) (hr' : Stops r') (h : intText m ++ r = intText n ++ r') :
    m = n ∧ r = r' := by
  rw [intText, intText] at h
  split at h
  · split at h
    · rw [List.cons_append, List.cons_append, List.cons.injEq] at h
      obtain ⟨habs, hrest⟩ := toDigits_append_inj hr hr' h.2
      exact ⟨by omega, hrest⟩
    · exact absurd h.symm toDigits_append_ne
  · split at h
    · exact absurd h toDigits_append_ne
    · obtain ⟨habs, hrest⟩ := toDigits_append_inj hr hr' h
      exact ⟨by omega, hrest⟩

theorem compactText_append_inj {x y : Text} (h : compactText x ++ r = compactText y ++ r') : x = y ∧ r = r' := by
  obtain ⟨u, hu, hx⟩ := string_of_spellsText (spellsText_compactText x) x.hasPair_codes
  obtain ⟨t, ht, hy⟩ := string_of_spellsText (spellsText_compactText y) y.hasPair_codes
  rw [hu, ht, List.cons_append, List.cons_append, List.cons.injEq] at h
  have hread := hx [] r
  rw [h.2, hy, Except.ok.injEq, Prod.mk.injEq, Text.ofCodes_codes, Text.ofCodes_codes] at hread
  exact ⟨hread.1.symm, hread.2.symm⟩

theorem compact_ofText (x : Text) : (ofText x).compact = compactText x := by
  cases x <;> rw [ofText, compact]

theorem exists_ofText_of_kind (hv : v.kind = .text) : ∃ x, v = ofText x := by
  cases v with
  | str s => exact ⟨.whole s, rfl⟩
  | ragged r => exact ⟨.ragged r, rfl⟩
  | _ => cases hv

theorem text_append_inj (hv : v.kind = .text) (hw : w.kind = .text) (h : v.compact ++ r = w.compact ++ r') :
    v = w ∧ r = r' := by
  obtain ⟨x, rfl⟩ := exists_ofText_of_kind hv
  obtain ⟨y, rfl⟩ := exists_ofText_of_kind hw
  rw [compact_ofText, compact_ofText] at h
  obtain ⟨rfl, hrest⟩ := compactText_append_inj h
  exact ⟨rfl, hrest⟩

/-! ## Values -/

/-- No value begins with the bracket that closes an empty array. -/
theorem compact_append_ne (hv : v.Each IsFloatFree) {s : List Char} : v.compact ++ r ≠ ']' :: s := by
  obtain ⟨c, u, h, -, hc⟩ := exists_compact_eq_cons hv.self
  intro he
  rw [h, List.cons_append, List.cons.injEq] at he
  exact hc he.1

/-- No number goes on behind an item or a member. -/
theorem stops_compactItems (vs : List Json) (r : List Char) : Stops (compactItems vs ++ r) := by
  cases vs <;> exact stops_cons (by decide) _

theorem stops_compactMembers (ms : List (Text × Json)) (r : List Char) : Stops (compactMembers ms ++ r) := by
  cases ms <;> exact stops_cons (by decide) _

mutual

/-- A value is told by its text, and so is what stands behind it. -/
theorem compact_append_inj : ∀ {v w : Json} {r r' : List Char}, v.Each IsFloatFree → w.Each IsFloatFree → Stops r →
    Stops r' → v.compact ++ r = w.compact ++ r' → v = w ∧ r = r'
  | .null, w, r, r', hv, hw, _, _, h => by
    have hk := kind_eq_of_append hv.self hw.self h
    cases w with
    | null => exact ⟨rfl, List.append_cancel_left h⟩
    | _ => cases hk
  | .bool b, w, r, r', hv, hw, _, _, h => by
    have hk := kind_eq_of_append hv.self hw.self h
    cases w with
    | bool b' =>
      cases hk
      exact ⟨rfl, List.append_cancel_left h⟩
    | _ => cases hk
  | .int n, w, r, r', hv, hw, hr, hr', h => by
    have hk := kind_eq_of_append hv.self hw.self h
    cases w with
    | int n' =>
      obtain ⟨rfl, hrest⟩ := intText_append_inj hr hr' h
      exact ⟨rfl, hrest⟩
    | float x => exact absurd hw.self id
    | _ => cases hk
  | .float x, w, r, r', hv, _, _, _, _ => absurd hv.self id
  | .str s, w, r, r', hv, hw, _, _, h =>
    have hk := kind_eq_of_append hv.self hw.self h
    text_append_inj rfl hk.symm h
  | .ragged s, w, r, r', hv, hw, _, _, h =>
    have hk := kind_eq_of_append hv.self hw.self h
    text_append_inj rfl hk.symm h
  | .arr [], w, r, r', hv, hw, _, _, h => by
    have hk := kind_eq_of_append hv.self hw.self h
    cases w with
    | arr ws =>
      cases ws with
      | nil => exact ⟨rfl, List.append_cancel_left h⟩
      | cons w ws =>
        have hclosed : w.compact ++ (compactItems ws ++ r') = ']' :: r := by
          simpa [compact] using h.symm
        exact absurd hclosed (compact_append_ne (hw.item List.mem_cons_self))
    | _ => cases hk
  | .arr (v :: vs), w, r, r', hv, hw, _, _, h => by
    have hk := kind_eq_of_append hv.self hw.self h
    cases w with
    | arr ws =>
      cases ws with
      | nil =>
        have hclosed : v.compact ++ (compactItems vs ++ r) = ']' :: r' := by
          simpa [compact] using h
        exact absurd hclosed (compact_append_ne (hv.item List.mem_cons_self))
      | cons w ws =>
        have hitems : compactItems (v :: vs) ++ r = compactItems (w :: ws) ++ r' := by
          simpa [compact, compactItems] using h
        obtain ⟨hvs, hrest⟩ := compactItems_append_inj (fun _ hm ↦ hv.item hm) (fun _ hm ↦ hw.item hm) hitems
        exact ⟨congrArg arr hvs, hrest⟩
    | _ => cases hk
  | .obj [], w, r, r', hv, hw, _, _, h => by
    have hk := kind_eq_of_append hv.self hw.self h
    cases w with
    | obj ms =>
      cases ms with
      | nil => exact ⟨rfl, List.append_cancel_left h⟩
      | cons m ms => exact nomatch (List.cons.inj (List.cons.inj h).2).1
    | _ => cases hk
  | .obj (m :: ms), w, r, r', hv, hw, _, _, h => by
    have hk := kind_eq_of_append hv.self hw.self h
    cases w with
    | obj ms' =>
      cases ms' with
      | nil => exact nomatch (List.cons.inj (List.cons.inj h).2).1
      | cons m' ms' =>
        have hmembers : compactMembers (m :: ms) ++ r = compactMembers (m' :: ms') ++ r' := by
          simpa [compact, compactMembers] using h
        obtain ⟨hms, hrest⟩ := compactMembers_append_inj (fun _ hm ↦ hv.member hm) (fun _ hm ↦ hw.member hm) hmembers
        exact ⟨congrArg obj hms, hrest⟩
    | _ => cases hk

theorem compactItems_append_inj : ∀ {vs ws : List Json} {r r' : List Char}, (∀ v ∈ vs, v.Each IsFloatFree) →
    (∀ w ∈ ws, w.Each IsFloatFree) → compactItems vs ++ r = compactItems ws ++ r' → vs = ws ∧ r = r'
  | [], [], _, _, _, _, h => ⟨rfl, (List.cons.inj h).2⟩
  | [], _ :: _, _, _, _, _, h => nomatch (List.cons.inj h).1
  | _ :: _, [], _, _, _, _, h => nomatch (List.cons.inj h).1
  | v :: vs, w :: ws, r, r', hvs, hws, h => by
    rw [List.forall_mem_cons] at hvs hws
    have hvalues : v.compact ++ (compactItems vs ++ r) = w.compact ++ (compactItems ws ++ r') := by
      simpa [compactItems] using h
    obtain ⟨rfl, hitems⟩ := compact_append_inj hvs.1 hws.1 (stops_compactItems vs r) (stops_compactItems ws r') hvalues
    obtain ⟨rfl, hrest⟩ := compactItems_append_inj hvs.2 hws.2 hitems
    exact ⟨rfl, hrest⟩

theorem compactMembers_append_inj : ∀ {ms ms' : List (Text × Json)} {r r' : List Char},
    (∀ m ∈ ms, m.2.Each IsFloatFree) → (∀ m ∈ ms', m.2.Each IsFloatFree) →
    compactMembers ms ++ r = compactMembers ms' ++ r' → ms = ms' ∧ r = r'
  | [], [], _, _, _, _, h => ⟨rfl, (List.cons.inj h).2⟩
  | [], _ :: _, _, _, _, _, h => nomatch (List.cons.inj h).1
  | _ :: _, [], _, _, _, _, h => nomatch (List.cons.inj h).1
  | (k, v) :: ms, (k', v') :: ms', r, r', hms, hms', h => by
    rw [List.forall_mem_cons] at hms hms'
    have hkeys : compactText k ++ ':' :: ' ' :: (v.compact ++ (compactMembers ms ++ r)) =
        compactText k' ++ ':' :: ' ' :: (v'.compact ++ (compactMembers ms' ++ r')) := by
      simpa [compactMembers] using h
    obtain ⟨rfl, hvalues⟩ := compactText_append_inj hkeys
    obtain ⟨rfl, hmembers⟩ := compact_append_inj hms.1 hms'.1 (stops_compactMembers ms r)
      (stops_compactMembers ms' r') (List.cons.inj (List.cons.inj hvalues).2).2
    obtain ⟨rfl, hrest⟩ := compactMembers_append_inj hms.2 hms'.2 hmembers
    exact ⟨rfl, hrest⟩

end

/-- Two values without floats have the same one-line text only if they are one. -/
theorem compact_inj (hv : v.Each IsFloatFree) (hw : w.Each IsFloatFree) (h : v.compact = w.compact) : v = w :=
  (compact_append_inj hv hw stops_nil stops_nil (congrArg (· ++ []) h)).1

end ClusterMatrix.Json

import ClusterMatrix.Json.Compact
import ClusterMatrix.Json.Indented
import ClusterMatrix.Json.Reader
import ClusterMatrix.Proofs.Json.Part

/-!
# How values are spelled

One value has many texts: blanks stand between the tokens, and a character of a string stands for itself or is escaped.
`Spells` says which texts spell a value, apart from any writer and any reader. Floats are left out. The one-line text
of a value spells it, and so does the indented text where the halves of characters in it are escaped.
-/

namespace ClusterMatrix.Json

/-- A text that can stand between tokens. -/
def IsBlank (w : List Char) : Prop := ∀ c ∈ w, isSpace c = true

/-- How a character can be written in a string: as it is, with a letter behind a backslash, or by its 16-bit units. -/
inductive SpellsChar (c : Char) : List Char → Prop where
  | plain (hc : 0x20 ≤ c.toNat) (hq : c ≠ '"') (hb : c ≠ '\\') : SpellsChar c [c]
  | short {l : Char} (h : escapes.lookup l = some c) : SpellsChar c ['\\', l]
  | unit {x y z w : Char} (h : unit? x y z w = some c.toNat) : SpellsChar c ['\\', 'u', x, y, z, w]
  | pair {x y z w x' y' z' w' : Char} {high low : Nat} (hh : unit? x y z w = some high)
      (hl : unit? x' y' z' w' = some low) (high_isHigh : Text.isHighUnit high = true)
      (low_isLow : Text.isLowUnit low = true) (hc : Text.ofPair high low = c) :
      SpellsChar c ['\\', 'u', x, y, z, w, '\\', 'u', x', y', z', w']

/-- How a code point can be written: as the character that it stands for, or by its unit if it is half of one. -/
inductive SpellsCode : Nat → List Char → Prop where
  | char {c : Char} {t : List Char} (h : SpellsChar c t) : SpellsCode c.toNat t
  | half {n : Nat} {x y z w : Char} (hn : Text.isHalf n = true) (hu : unit? x y z w = some n) :
      SpellsCode n ['\\', 'u', x, y, z, w]

/-- Code points, written one behind the other. -/
inductive SpellsCodes : List Nat → List Char → Prop where
  | nil : SpellsCodes [] []
  | cons {n : Nat} {ns : List Nat} {t u : List Char} (hn : SpellsCode n t) (hns : SpellsCodes ns u) :
      SpellsCodes (n :: ns) (t ++ u)

/-- A text stands between quotes. -/
def SpellsText (codes : List Nat) (t : List Char) : Prop := ∃ u, SpellsCodes codes u ∧ t = '"' :: (u ++ ['"'])

/-- The code points of a string are those of its characters. -/
def SpellsString (s : String) (t : List Char) : Prop := SpellsText (Text.codes s) t

mutual

/-- The text spells the value. -/
inductive Spells : Json → List Char → Prop where
  | null : Spells .null "null".toList
  | bool (b : Bool) : Spells (.bool b) (wordText b)
  | int (n : Int) : Spells (.int n) (intText n)
  | str {s : String} {t : List Char} (h : SpellsString s t) : Spells (.str s) t
  | ragged {r : Text.Ragged} {t : List Char} (h : SpellsText r.codes t) : Spells (.ragged r) t
  | emptyArr {w : List Char} (hw : IsBlank w) : Spells (.arr []) ('[' :: (w ++ [']']))
  | arr {v : Json} {vs : List Json} {w s u : List Char} (hw : IsBlank w) (hv : Spells v s) (hvs : SpellsItems vs u) :
      Spells (.arr (v :: vs)) ('[' :: (w ++ (s ++ u)))
  | emptyObj {w : List Char} (hw : IsBlank w) : Spells (.obj []) ('{' :: (w ++ ['}']))
  | obj {m : Text × Json} {ms : List (Text × Json)} {w s u : List Char} (hw : IsBlank w) (hm : SpellsMember m s)
      (hms : SpellsMembers ms u) : Spells (.obj (m :: ms)) ('{' :: (w ++ (s ++ u)))

/-- The text spells the items behind the first one, and the closing bracket. -/
inductive SpellsItems : List Json → List Char → Prop where
  | nil {w : List Char} (hw : IsBlank w) : SpellsItems [] (w ++ [']'])
  | cons {v : Json} {vs : List Json} {w x s u : List Char} (hw : IsBlank w) (hx : IsBlank x) (hv : Spells v s)
      (hvs : SpellsItems vs u) : SpellsItems (v :: vs) (w ++ ',' :: (x ++ (s ++ u)))

/-- The text spells a key, a colon and a value. -/
inductive SpellsMember : Text × Json → List Char → Prop where
  | mk {k : Text} {v : Json} {w x s t : List Char} (hk : SpellsText k.codes s) (hw : IsBlank w) (hx : IsBlank x)
      (hv : Spells v t) : SpellsMember (k, v) (s ++ (w ++ ':' :: (x ++ t)))

/-- The text spells the members behind the first one, and the closing brace. -/
inductive SpellsMembers : List (Text × Json) → List Char → Prop where
  | nil {w : List Char} (hw : IsBlank w) : SpellsMembers [] (w ++ ['}'])
  | cons {m : Text × Json} {ms : List (Text × Json)} {w x s u : List Char} (hw : IsBlank w) (hx : IsBlank x)
      (hm : SpellsMember m s) (hms : SpellsMembers ms u) : SpellsMembers (m :: ms) (w ++ ',' :: (x ++ (s ++ u)))

end

/-! ## Strings -/

/-- The four hexadecimal digits of a unit are read as the unit. -/
theorem exists_unitEscape {n : Nat} (h : n < 0x10000) :
    ∃ x y z w, unitEscape n = ['\\', 'u', x, y, z, w] ∧ unit? x y z w = some n := by
  refine ⟨Nat.digitChar (n / 16 / 16 / 16 % 16), Nat.digitChar (n / 16 / 16 % 16), Nat.digitChar (n / 16 % 16),
    Nat.digitChar (n % 16), rfl, ?_⟩
  have hlt : ∀ m : Nat, m % 16 < 16 := fun m ↦ Nat.mod_lt m (by decide)
  simp only [unit?, Text.hexValue?_digitChar (hlt _), Option.bind_eq_bind, Option.bind_some, Option.pure_def,
    Option.some.injEq]
  omega

/-- A character that is escaped by its 16-bit units. -/
theorem SpellsChar.units (c : Char) : SpellsChar c ((unitsOf c).flatMap unitEscape) := by
  have hvalid := Text.toNat_cases c
  rw [unitsOf]
  split
  · rename_i hc
    obtain ⟨x, y, z, w, he, hu⟩ := exists_unitEscape hc
    rw [List.flatMap_singleton, he]
    exact .unit hu
  · have hhigh : 0xD800 + (c.toNat - 0x10000) / 0x400 < 0x10000 := by omega
    have hlow : 0xDC00 + (c.toNat - 0x10000) % 0x400 < 0x10000 := by omega
    obtain ⟨x, y, z, w, he, hu⟩ := exists_unitEscape hhigh
    obtain ⟨x', y', z', w', he', hu'⟩ := exists_unitEscape hlow
    rw [List.flatMap_cons, List.flatMap_singleton, he, he']
    refine .pair hu hu' (Text.isHighUnit_iff.2 (by omega)) (Text.isLowUnit_iff.2 (by omega)) ?_
    have hcode : 0x10000 + (0xD800 + (c.toNat - 0x10000) / 0x400 - 0xD800) * 0x400 +
        (0xDC00 + (c.toNat - 0x10000) % 0x400 - 0xDC00) = c.toNat := by omega
    rw [Text.ofPair, hcode, Char.ofNat_toNat]

/-- The letter of a short escape is read as the character. -/
theorem lookup_escapes {c l : Char} (h : shortEscape? c = some l) : escapes.lookup l = some c := by
  unfold shortEscape? at h
  split at h <;> cases h <;> rfl

/-- A character without a short escape is neither a quote nor a backslash. -/
theorem ne_of_shortEscape?_eq_none {c : Char} (h : shortEscape? c = none) : c ≠ '"' ∧ c ≠ '\\' := by
  constructor
  · rintro rfl
    cases h
  · rintro rfl
    cases h

theorem spellsChar_compactChar (c : Char) : SpellsChar c (compactChar c) := by
  rw [compactChar]
  cases h : shortEscape? c with
  | some l => exact .short (lookup_escapes h)
  | none =>
    obtain ⟨hq, hb⟩ := ne_of_shortEscape?_eq_none h
    dsimp only
    split
    · rename_i hp
      rw [isPlain, Bool.and_eq_true, decide_eq_true_iff] at hp
      exact .plain hp.1 hq hb
    · exact .units c

theorem spellsChar_indentedChar (c : Char) : SpellsChar c (indentedChar c) := by
  rw [indentedChar]
  cases h : shortEscape? c with
  | some l => exact .short (lookup_escapes h)
  | none =>
    obtain ⟨hq, hb⟩ := ne_of_shortEscape?_eq_none h
    dsimp only
    split
    · rename_i hc
      obtain ⟨x, y, z, w, he, hu⟩ := exists_unitEscape (Nat.lt_trans hc (by decide))
      rw [he]
      exact .unit hu
    · rename_i hc
      exact .plain (Nat.not_lt.1 hc) hq hb

/-- Code points that are written one by one. -/
theorem spellsCodes_flatMap {write : Nat → List Char} {codes : List Nat} (h : ∀ n ∈ codes, SpellsCode n (write n)) :
    SpellsCodes codes (codes.flatMap write) := by
  induction codes with
  | nil => exact .nil
  | cons n codes ih =>
    rw [List.forall_mem_cons] at h
    rw [List.flatMap_cons]
    exact .cons h.1 (ih h.2)

/-- A half is written by its escape. -/
theorem spellsCode_unitEscape {n : Nat} (hn : Text.isHalf n = true) : SpellsCode n (unitEscape n) := by
  obtain ⟨x, y, z, w, he, hu⟩ := exists_unitEscape (Nat.lt_trans (Text.isHalf_iff.1 hn).2 (by decide))
  rw [he]
  exact .half hn hu

theorem spellsCode_ofNat {n : Nat} {t : List Char} (hn : n.isValidChar) (h : SpellsChar (Char.ofNat n) t) :
    SpellsCode n t := by
  have hs := SpellsCode.char h
  rwa [Text.toNat_ofNat_of_isValidChar hn] at hs

/-- A code point of a text is a half, or that of a character. -/
theorem spellsCode_compactCode {t : Text} {n : Nat} (h : n ∈ t.codes) : SpellsCode n (compactCode n) := by
  rw [compactCode]
  split
  · rename_i hn
    exact spellsCode_unitEscape hn
  · rename_i hn
    exact spellsCode_ofNat ((Text.isHalf_or_isValidChar_of_mem h).resolve_left hn) (spellsChar_compactChar _)

theorem spellsText_compactText (t : Text) : SpellsText t.codes (compactText t) :=
  ⟨_, spellsCodes_flatMap fun _ hn ↦ spellsCode_compactCode hn, rfl⟩

/-! ## Halves that stand for themselves -/

/-- How a code point of a text is escaped: only a half is. -/
def escapedCode (n : Nat) : List Char := if Text.isHalf n then unitEscape n else [Char.ofNat n]

/-- The characters of a text in which halves of characters stand for themselves. Each of them is escaped. -/
def escaped (codes : List Nat) : List Char := codes.flatMap escapedCode

@[simp] theorem escaped_append (ns ms : List Nat) : escaped (ns ++ ms) = escaped ns ++ escaped ms :=
  List.flatMap_append

@[simp] theorem escaped_codesOf (s : List Char) : escaped (Text.codesOf s) = s := by
  induction s with
  | nil => rfl
  | cons c s ih =>
    have hc : escapedCode c.toNat = [c] := by
      rw [escapedCode, if_neg (Bool.eq_false_iff.1 (Text.isHalf_toNat c)), Char.ofNat_toNat]
    rw [escaped] at ih
    rw [Text.codesOf_cons, escaped, List.flatMap_cons, ih, hc, List.singleton_append]

theorem spellsCode_indentedCode {t : Text} {n : Nat} (h : n ∈ t.codes) : SpellsCode n (escaped (indentedCode n)) := by
  rw [indentedCode]
  split
  · rename_i hn
    rw [escaped, List.flatMap_singleton, escapedCode, if_pos hn]
    exact spellsCode_unitEscape hn
  · rename_i hn
    rw [escaped_codesOf]
    exact spellsCode_ofNat ((Text.isHalf_or_isValidChar_of_mem h).resolve_left hn) (spellsChar_indentedChar _)

theorem spellsText_indentedText (t : Text) : SpellsText t.codes (escaped (indentedText t)) := by
  refine ⟨t.codes.flatMap fun n ↦ escaped (indentedCode n),
    spellsCodes_flatMap fun _ hn ↦ spellsCode_indentedCode hn, ?_⟩
  rw [indentedText, escaped_append, escaped_append, escaped_codesOf, escaped, List.flatMap_assoc]
  rfl

/-! ## Values -/

theorem isBlank_nil : IsBlank [] := fun _ hc ↦ absurd hc List.not_mem_nil

theorem isBlank_newLine (depth : Nat) : IsBlank (newLine depth) := by
  rw [IsBlank, newLine, List.forall_mem_cons]
  refine ⟨rfl, fun c hc ↦ ?_⟩
  rw [List.eq_of_mem_replicate hc]
  rfl

theorem isBlank_space : IsBlank [' '] := by
  rw [IsBlank, List.forall_mem_singleton]
  rfl

mutual

/-- The one-line text of a value spells it. -/
theorem spells_compact : ∀ {v : Json}, v.Each IsFloatFree → Spells v v.compact
  | .null, _ => .null
  | .bool b, _ => .bool b
  | .int n, _ => .int n
  | .float _, h => absurd h.self id
  | .str s, _ => .str (spellsText_compactText s)
  | .ragged r, _ => .ragged (spellsText_compactText (.ragged r))
  | .arr [], _ => .emptyArr isBlank_nil
  | .arr (v :: vs), h => by
    rw [compact]
    exact .arr isBlank_nil (spells_compact (h.item List.mem_cons_self))
      (spellsItems_compactItems fun w hw ↦ h.item (List.mem_cons_of_mem v hw))
  | .obj [], _ => .emptyObj isBlank_nil
  | .obj ((k, v) :: ms), h => by
    have hm : SpellsMember (k, v) (compactText k ++ ([] ++ ':' :: ([' '] ++ v.compact))) :=
      .mk (spellsText_compactText k) isBlank_nil isBlank_space (spells_compact (h.member List.mem_cons_self))
    have hms : SpellsMembers ms (compactMembers ms) :=
      spellsMembers_compactMembers fun m hm ↦ h.member (List.mem_cons_of_mem (k, v) hm)
    have ho := Spells.obj isBlank_nil hm hms
    simpa [compact] using ho

theorem spellsItems_compactItems : ∀ {vs : List Json}, (∀ v ∈ vs, v.Each IsFloatFree) → SpellsItems vs (compactItems vs)
  | [], _ => .nil isBlank_nil
  | v :: vs, h => by
    have hvs : SpellsItems vs (compactItems vs) :=
      spellsItems_compactItems fun w hw ↦ h w (List.mem_cons_of_mem v hw)
    have hi := SpellsItems.cons isBlank_nil isBlank_space (spells_compact (h v List.mem_cons_self)) hvs
    simpa [compactItems] using hi

theorem spellsMembers_compactMembers :
    ∀ {ms : List (Text × Json)}, (∀ m ∈ ms, m.2.Each IsFloatFree) → SpellsMembers ms (compactMembers ms)
  | [], _ => .nil isBlank_nil
  | (k, v) :: ms, h => by
    have hm : SpellsMember (k, v) (compactText k ++ ([] ++ ':' :: ([' '] ++ v.compact))) :=
      .mk (spellsText_compactText k) isBlank_nil isBlank_space (spells_compact (h _ List.mem_cons_self))
    have hms : SpellsMembers ms (compactMembers ms) :=
      spellsMembers_compactMembers fun m hm ↦ h m (List.mem_cons_of_mem (k, v) hm)
    have hi := SpellsMembers.cons isBlank_nil isBlank_space hm hms
    simpa [compactMembers] using hi

end

mutual

/-- The indented text of a value spells it, once the halves in it are escaped. -/
theorem spells_indented (depth : Nat) : ∀ {v : Json}, v.Each IsFloatFree → Spells v (escaped (v.indented depth))
  | .null, _ => by
    rw [indented, escaped_codesOf]
    exact .null
  | .bool b, _ => by
    rw [indented, escaped_codesOf]
    exact .bool b
  | .int n, _ => by
    rw [indented, escaped_codesOf]
    exact .int n
  | .float _, h => absurd h.self id
  | .str s, _ => .str (spellsText_indentedText s)
  | .ragged r, _ => .ragged (spellsText_indentedText (.ragged r))
  | .arr [], _ => by
    rw [indented, escaped_codesOf]
    exact .emptyArr isBlank_nil
  | .arr (v :: vs), h => by
    have hv := spells_indented (depth + 1) (h.item List.mem_cons_self)
    have hvs : SpellsItems vs (escaped (indentedItems depth vs)) :=
      spellsItems_indentedItems depth fun w hw ↦ h.item (List.mem_cons_of_mem v hw)
    have ha := Spells.arr (isBlank_newLine (depth + 1)) hv hvs
    rw [indented, escaped_append, escaped_append, escaped_codesOf, List.append_assoc]
    exact ha
  | .obj [], _ => by
    rw [indented, escaped_codesOf]
    exact .emptyObj isBlank_nil
  | .obj ((k, v) :: ms), h => by
    have hv := spells_indented (depth + 1) (h.member List.mem_cons_self)
    have hm := SpellsMember.mk (spellsText_indentedText k) isBlank_nil isBlank_space hv
    have hms : SpellsMembers ms (escaped (indentedMembers depth ms)) :=
      spellsMembers_indentedMembers depth fun m hm ↦ h.member (List.mem_cons_of_mem (k, v) hm)
    have ho := Spells.obj (isBlank_newLine (depth + 1)) hm hms
    simpa only [indented, escaped_append, escaped_codesOf, List.append_assoc, List.cons_append, List.nil_append] using ho

theorem spellsItems_indentedItems (depth : Nat) :
    ∀ {vs : List Json}, (∀ v ∈ vs, v.Each IsFloatFree) → SpellsItems vs (escaped (indentedItems depth vs))
  | [], _ => by
    rw [indentedItems, escaped_codesOf]
    exact .nil (isBlank_newLine depth)
  | v :: vs, h => by
    have hv := spells_indented (depth + 1) (h v List.mem_cons_self)
    have hvs : SpellsItems vs (escaped (indentedItems depth vs)) :=
      spellsItems_indentedItems depth fun w hw ↦ h w (List.mem_cons_of_mem v hw)
    have hi := SpellsItems.cons isBlank_nil (isBlank_newLine (depth + 1)) hv hvs
    simpa only [indentedItems, escaped_append, escaped_codesOf, List.append_assoc, List.cons_append, List.nil_append]
      using hi

theorem spellsMembers_indentedMembers (depth : Nat) : ∀ {ms : List (Text × Json)}, (∀ m ∈ ms, m.2.Each IsFloatFree) →
    SpellsMembers ms (escaped (indentedMembers depth ms))
  | [], _ => by
    rw [indentedMembers, escaped_codesOf]
    exact .nil (isBlank_newLine depth)
  | (k, v) :: ms, h => by
    have hv := spells_indented (depth + 1) (h _ List.mem_cons_self)
    have hm := SpellsMember.mk (spellsText_indentedText k) isBlank_nil isBlank_space hv
    have hms : SpellsMembers ms (escaped (indentedMembers depth ms)) :=
      spellsMembers_indentedMembers depth fun m hm ↦ h m (List.mem_cons_of_mem (k, v) hm)
    have hi := SpellsMembers.cons isBlank_nil (isBlank_newLine (depth + 1)) hm hms
    simpa only [indentedMembers, escaped_append, escaped_codesOf, List.append_assoc, List.cons_append, List.nil_append]
      using hi

end

end ClusterMatrix.Json

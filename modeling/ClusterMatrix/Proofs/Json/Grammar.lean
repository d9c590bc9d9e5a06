import ClusterMatrix.Proofs.Json.Spelling
import ClusterMatrix.Proofs.Text.Digits

/-!
# The grammar of values

`Denotes` tells which texts denote a value, for all the texts that JSON knows and the three words for numbers beyond it:
a number may be an integer or a float in any notation, and an object may be written with one key several times, of
which the last one counts. How many digits an integer may have is left open.

`Meets` tells which texts, read from the left, come to an obstacle before anything is wrong with them: an integer of too
many digits, or a bracket that is nested deeper than a limit allows. What stands behind the obstacle does not matter. A
text that denotes a value meets no integer of too many digits just if it denotes the value with all its integers within
the limit.
-/

namespace ClusterMatrix.Json

open Text (NoDigit)

/-! ## Numbers -/

def signed (negative : Bool) (n : Nat) : Int := if negative then -n else n

/-- The sign of a number. -/
def minus (negative : Bool) : List Char := if negative then ['-'] else []

/-- The digits before the point: a single zero, or digits that begin with none. -/
inductive IsWhole : List Char → Prop where
  | zero : IsWhole ['0']
  | digits {c : Char} {ds : List Char} (hc : c ≠ '0') (hd : ∀ d ∈ c :: ds, d.isDigit = true) : IsWhole (c :: ds)

/-- The digits behind the point, if there is one. -/
inductive DenotesPlaces : List Char → List Char → Prop where
  | none : DenotesPlaces [] []
  | some {ds : List Char} (hd : ∀ d ∈ ds, d.isDigit = true) (hne : ds ≠ []) : DenotesPlaces ds ('.' :: ds)

/-- The sign of an exponent. -/
inductive DenotesSign : Bool → List Char → Prop where
  | none : DenotesSign false []
  | plus : DenotesSign false ['+']
  | minus : DenotesSign true ['-']

/-- The exponent, if there is one. -/
inductive DenotesExponent : Option Int → List Char → Prop where
  | none : DenotesExponent none []
  | some {c : Char} {negative : Bool} {s ds : List Char} (hc : c = 'e' ∨ c = 'E') (hs : DenotesSign negative s)
      (hd : ∀ d ∈ ds, d.isDigit = true) (hne : ds ≠ []) :
      DenotesExponent (some (signed negative (Nat.ofDigitChars 10 ds 0))) (c :: (s ++ ds))

theorem IsWhole.isDigit {ds : List Char} (h : IsWhole ds) : ∀ d ∈ ds, d.isDigit = true := by
  cases h with
  | zero => exact List.forall_mem_singleton.2 rfl
  | digits _ hd => exact hd

theorem IsWhole.exists_eq_cons {ds : List Char} (h : IsWhole ds) : ∃ c t, ds = c :: t ∧ c.isDigit = true := by
  cases h with
  | zero => exact ⟨_, _, rfl, rfl⟩
  | digits _ hd => exact ⟨_, _, rfl, hd _ List.mem_cons_self⟩

/-! ## What follows a number -/

/-- What can stand behind a number: a character that does not go on with it, or nothing. -/
def Stops (rest : List Char) : Prop :=
  ∀ c ∈ rest.head?, c.isDigit = false ∧ c ≠ '.' ∧ c ≠ 'e' ∧ c ≠ 'E'

theorem stops_nil : Stops [] := fun _ hc ↦ nomatch hc

theorem stops_cons {c : Char} (hc : c.isDigit = false ∧ c ≠ '.' ∧ c ≠ 'e' ∧ c ≠ 'E') (s : List Char) :
    Stops (c :: s) := by
  intro d hd
  rw [List.head?_cons, Option.mem_some] at hd
  exact hd ▸ hc

theorem isSpace_iff {c : Char} : isSpace c = true ↔ c = ' ' ∨ c = '\t' ∨ c = '\n' ∨ c = '\r' := by
  simp only [isSpace, Bool.or_eq_true, decide_eq_true_iff, or_assoc]

theorem stops_of_isBlank {w s : List Char} (hw : IsBlank w) (hs : Stops s) : Stops (w ++ s) := by
  cases w with
  | nil => exact hs
  | cons c w =>
    have hc := isSpace_iff.1 (hw c List.mem_cons_self)
    rw [List.cons_append]
    apply stops_cons
    rcases hc with rfl | rfl | rfl | rfl <;> decide

theorem stops_blank_cons {w : List Char} (hw : IsBlank w) {c : Char}
    (hc : c.isDigit = false ∧ c ≠ '.' ∧ c ≠ 'e' ∧ c ≠ 'E') (s : List Char) : Stops (w ++ c :: s) :=
  stops_of_isBlank hw (stops_cons hc s)

theorem Stops.noDigit {rest : List Char} (h : Stops rest) : NoDigit rest := fun c hc ↦ (h c hc).1

/-- An integer ends here: no digit follows, no point with digits and no exponent with digits. -/
structure EndsInteger (rest : List Char) : Prop where
  noDigit : NoDigit rest
  noPlaces : ∀ {t : List Char}, rest = '.' :: t → NoDigit t
  noExponent : ∀ {c : Char} {negative : Bool} {g t : List Char}, c = 'e' ∨ c = 'E' → DenotesSign negative g →
    rest = c :: (g ++ t) → NoDigit t

theorem Stops.endsInteger {rest : List Char} (h : Stops rest) : EndsInteger rest where
  noDigit := h.noDigit
  noPlaces := by
    rintro t rfl
    exact absurd rfl (h '.' rfl).2.1
  noExponent := by
    rintro c _ g t hc - rfl
    exact absurd hc (not_or.2 (h c rfl).2.2)

/-! ## Values -/

section

variable (fits : Nat → Prop)

mutual

/-- The text denotes the value, where the number of digits of each integer fits. -/
inductive Denotes : Json → List Char → Prop where
  | word {t : List Char} {v : Json} (h : (t, v) ∈ words) : Denotes v t
  | int {negative : Bool} {ds : List Char} (hw : IsWhole ds) (hf : fits ds.length) :
      Denotes (.int (signed negative (Nat.ofDigitChars 10 ds 0))) (minus negative ++ ds)
  | float {negative : Bool} {exp : Option Int} {ds places p x : List Char} (hw : IsWhole ds)
      (hp : DenotesPlaces places p) (hx : DenotesExponent exp x) (hne : p ++ x ≠ []) :
      Denotes (.float (Decimal.nearest negative (Nat.ofDigitChars 10 (ds ++ places) 0) (exp.getD 0 - places.length)))
        (minus negative ++ (ds ++ (p ++ x)))
  | text {codes : List Nat} {t : List Char} (ht : SpellsText codes t) (hp : Text.hasPair codes = false) :
      Denotes (ofCodes codes) t
  | emptyArr {w : List Char} (hw : IsBlank w) : Denotes (.arr []) ('[' :: (w ++ [']']))
  | arr {v : Json} {vs : List Json} {w s u : List Char} (hw : IsBlank w) (hv : Denotes v s)
      (hvs : DenotesItems vs u) : Denotes (.arr (v :: vs)) ('[' :: (w ++ (s ++ u)))
  | emptyObj {w : List Char} (hw : IsBlank w) : Denotes (.obj []) ('{' :: (w ++ ['}']))
  | obj {m : Text × Json} {ms : List (Text × Json)} {w s u : List Char} (hw : IsBlank w)
      (hm : DenotesMember m s) (hms : DenotesMembers ms u) :
      Denotes (.obj (membersOf (m :: ms))) ('{' :: (w ++ (s ++ u)))

/-- The text denotes the items behind the first one, and holds the closing bracket. -/
inductive DenotesItems : List Json → List Char → Prop where
  | nil {w : List Char} (hw : IsBlank w) : DenotesItems [] (w ++ [']'])
  | cons {v : Json} {vs : List Json} {w x s u : List Char} (hw : IsBlank w) (hx : IsBlank x) (hv : Denotes v s)
      (hvs : DenotesItems vs u) : DenotesItems (v :: vs) (w ++ ',' :: (x ++ (s ++ u)))

/-- The text denotes a member: a key, a colon and a value. -/
inductive DenotesMember : Text × Json → List Char → Prop where
  | mk {codes : List Nat} {v : Json} {w x s t : List Char} (hk : SpellsText codes s)
      (hp : Text.hasPair codes = false) (hw : IsBlank w) (hx : IsBlank x) (hv : Denotes v t) :
      DenotesMember (.ofCodes codes, v) (s ++ (w ++ ':' :: (x ++ t)))

/-- The text denotes the members behind the first one, and holds the closing brace. -/
inductive DenotesMembers : List (Text × Json) → List Char → Prop where
  | nil {w : List Char} (hw : IsBlank w) : DenotesMembers [] (w ++ ['}'])
  | cons {m : Text × Json} {ms : List (Text × Json)} {w x s u : List Char} (hw : IsBlank w) (hx : IsBlank x)
      (hm : DenotesMember m s) (hms : DenotesMembers ms u) :
      DenotesMembers (m :: ms) (w ++ ',' :: (x ++ (s ++ u)))

end

/-- The text denotes the value, with blanks before and behind. -/
def IsDocument (v : Json) (text : List Char) : Prop :=
  ∃ w t w', IsBlank w ∧ Denotes fits v t ∧ IsBlank w' ∧ text = w ++ (t ++ w')

end

section

variable {fits more : Nat → Prop}

mutual

/-- A wider limit for integers takes nothing away. -/
theorem Denotes.mono (h : ∀ n, fits n → more n) : ∀ {v : Json} {t : List Char}, Denotes fits v t → Denotes more v t
  | _, _, .word hm => .word hm
  | _, _, .int hw hf => .int hw (h _ hf)
  | _, _, .float hw hp hx hne => .float hw hp hx hne
  | _, _, .text ht hp => .text ht hp
  | _, _, .emptyArr hw => .emptyArr hw
  | _, _, .arr hw hv hvs => .arr hw (Denotes.mono h hv) (DenotesItems.mono h hvs)
  | _, _, .emptyObj hw => .emptyObj hw
  | _, _, .obj hw hm hms => .obj hw (DenotesMember.mono h hm) (DenotesMembers.mono h hms)

theorem DenotesItems.mono (h : ∀ n, fits n → more n) :
    ∀ {vs : List Json} {t : List Char}, DenotesItems fits vs t → DenotesItems more vs t
  | _, _, .nil hw => .nil hw
  | _, _, .cons hw hx hv hvs => .cons hw hx (Denotes.mono h hv) (DenotesItems.mono h hvs)

theorem DenotesMember.mono (h : ∀ n, fits n → more n) :
    ∀ {m : Text × Json} {t : List Char}, DenotesMember fits m t → DenotesMember more m t
  | _, _, .mk hk hp hw hx hv => .mk hk hp hw hx (Denotes.mono h hv)

theorem DenotesMembers.mono (h : ∀ n, fits n → more n) :
    ∀ {ms : List (Text × Json)} {t : List Char}, DenotesMembers fits ms t → DenotesMembers more ms t
  | _, _, .nil hw => .nil hw
  | _, _, .cons hw hx hm hms => .cons hw hx (DenotesMember.mono h hm) (DenotesMembers.mono h hms)

end

theorem IsDocument.mono (h : ∀ n, fits n → more n) {v : Json} {text : List Char} (hd : IsDocument fits v text) :
    IsDocument more v text := by
  obtain ⟨w, t, w', hw, hv, hw', htext⟩ := hd
  exact ⟨w, t, w', hw, hv.mono h, hw', htext⟩

end

/-! ## Obstacles -/

/-- The limit for the digits of an integer. -/
def IsShort (digits : Nat) : Prop := digits ≤ maxIntegerDigits

/-- No limit for the digits of an integer. -/
def AnyLength (_ : Nat) : Prop := True

/-- An integer beyond the limit comes first. -/
inductive BeginsLong : List Char → Prop where
  | int {negative : Bool} {ds rest : List Char} (hw : IsWhole ds) (hl : ¬ IsShort ds.length)
      (hr : EndsInteger rest) : BeginsLong (minus negative ++ (ds ++ rest))

/-- An array or an object comes first, where as many of them are open as the limit allows. -/
inductive BeginsDeep (limit : Nat) : Nat → List Char → Prop where
  | arr (s : List Char) : BeginsDeep limit limit ('[' :: s)
  | obj (s : List Char) : BeginsDeep limit limit ('{' :: s)

section

variable (begins : Nat → List Char → Prop)

mutual

/-- A text that begins like a value, with all integers within the limit, up to a place that `begins` describes. The number
tells how many arrays and objects are open. -/
inductive Meets : Nat → List Char → Prop where
  | here {depth : Nat} {s : List Char} (h : begins depth s) : Meets depth s
  | item {depth : Nat} {w s : List Char} (hw : IsBlank w) (h : Meets (depth + 1) s) : Meets depth ('[' :: (w ++ s))
  | items {depth : Nat} {v : Json} {w s u : List Char} (hw : IsBlank w) (hv : Denotes IsShort v s)
      (h : MeetsInItems (depth + 1) u) : Meets depth ('[' :: (w ++ (s ++ u)))
  | member {depth : Nat} {w s : List Char} (hw : IsBlank w) (h : MeetsInMember (depth + 1) s) :
      Meets depth ('{' :: (w ++ s))
  | members {depth : Nat} {m : Text × Json} {w s u : List Char} (hw : IsBlank w) (hm : DenotesMember IsShort m s)
      (h : MeetsInMembers (depth + 1) u) : Meets depth ('{' :: (w ++ (s ++ u)))

/-- The same of a text that begins like the items behind the first one. -/
inductive MeetsInItems : Nat → List Char → Prop where
  | here {depth : Nat} {w x s : List Char} (hw : IsBlank w) (hx : IsBlank x) (h : Meets depth s) :
      MeetsInItems depth (w ++ ',' :: (x ++ s))
  | later {depth : Nat} {v : Json} {w x s u : List Char} (hw : IsBlank w) (hx : IsBlank x) (hv : Denotes IsShort v s)
      (h : MeetsInItems depth u) : MeetsInItems depth (w ++ ',' :: (x ++ (s ++ u)))

/-- The same of a text that begins like a member. -/
inductive MeetsInMember : Nat → List Char → Prop where
  | mk {depth : Nat} {codes : List Nat} {w x s t : List Char} (hk : SpellsText codes s)
      (hp : Text.hasPair codes = false) (hw : IsBlank w) (hx : IsBlank x) (h : Meets depth t) :
      MeetsInMember depth (s ++ (w ++ ':' :: (x ++ t)))

/-- The same of a text that begins like the members behind the first one. -/
inductive MeetsInMembers : Nat → List Char → Prop where
  | here {depth : Nat} {w x s : List Char} (hw : IsBlank w) (hx : IsBlank x) (h : MeetsInMember depth s) :
      MeetsInMembers depth (w ++ ',' :: (x ++ s))
  | later {depth : Nat} {m : Text × Json} {w x s u : List Char} (hw : IsBlank w) (hx : IsBlank x)
      (hm : DenotesMember IsShort m s) (h : MeetsInMembers depth u) :
      MeetsInMembers depth (w ++ ',' :: (x ++ (s ++ u)))

end

/-- The same of a text with blanks before the value. -/
def MeetsInDocument (text : List Char) : Prop := ∃ w s, IsBlank w ∧ Meets begins 0 s ∧ text = w ++ s

end

/-- The text meets an integer beyond the limit. -/
def MeetsLongInteger (text : List Char) : Prop := MeetsInDocument (fun _ ↦ BeginsLong) text

/-- The text meets an array or an object where `limit` of them are open. -/
def MeetsDeepNesting (limit : Nat) (text : List Char) : Prop := MeetsInDocument (BeginsDeep limit) text

section

variable {fits : Nat → Prop}

theorem DenotesItems.stops {vs : List Json} {t : List Char} (h : DenotesItems fits vs t) (rest : List Char) :
    Stops (t ++ rest) := by
  cases h with
  | nil hw =>
    rw [List.append_assoc]
    exact stops_blank_cons hw (by decide) rest
  | cons hw _ _ _ =>
    rw [List.append_assoc, List.cons_append]
    exact stops_blank_cons hw (by decide) _

theorem DenotesMembers.stops {ms : List (Text × Json)} {t : List Char} (h : DenotesMembers fits ms t)
    (rest : List Char) : Stops (t ++ rest) := by
  cases h with
  | nil hw =>
    rw [List.append_assoc]
    exact stops_blank_cons hw (by decide) rest
  | cons hw _ _ _ =>
    rw [List.append_assoc, List.cons_append]
    exact stops_blank_cons hw (by decide) _

variable {begins : Nat → List Char → Prop} {depth : Nat}

theorem MeetsInItems.stops {s : List Char} (h : MeetsInItems begins depth s) : Stops s := by
  cases h with
  | here hw _ _ => exact stops_blank_cons hw (by decide) _
  | later hw _ _ _ => exact stops_blank_cons hw (by decide) _

theorem MeetsInMembers.stops {s : List Char} (h : MeetsInMembers begins depth s) : Stops s := by
  cases h with
  | here hw _ _ => exact stops_blank_cons hw (by decide) _
  | later hw _ _ _ => exact stops_blank_cons hw (by decide) _

mutual

/-- Without a limit, what denotes a value does so within the limit or meets an integer beyond it. -/
theorem Denotes.isShort_or_meetsLong : ∀ {depth : Nat} {v : Json} {t rest : List Char}, Denotes fits v t →
    Stops rest → Denotes IsShort v t ∨ Meets (fun _ ↦ BeginsLong) depth (t ++ rest)
  | _, _, _, _, .word hm, _ => .inl (.word hm)
  | _, _, _, rest, @Denotes.int _ _ ds hw _, hr => by
    by_cases hl : IsShort ds.length
    · exact .inl (.int hw hl)
    · rw [List.append_assoc]
      exact .inr (.here (.int hw hl hr.endsInteger))
  | _, _, _, _, .float hw hp hx hne, _ => .inl (.float hw hp hx hne)
  | _, _, _, _, .text ht hp, _ => .inl (.text ht hp)
  | _, _, _, _, .emptyArr hw, _ => .inl (.emptyArr hw)
  | _, _, _, rest, .arr hw hv hvs, _ => by
    rw [List.cons_append, List.append_assoc, List.append_assoc]
    rcases hv.isShort_or_meetsLong (hvs.stops rest) with hs | hm
    · rcases hvs.isShort_or_meetsLong rest with hss | hms
      · exact .inl (.arr hw hs hss)
      · exact .inr (.items hw hs hms)
    · exact .inr (.item hw hm)
  | _, _, _, _, .emptyObj hw, _ => .inl (.emptyObj hw)
  | _, _, _, rest, .obj hw hm hms, _ => by
    rw [List.cons_append, List.append_assoc, List.append_assoc]
    rcases hm.isShort_or_meetsLong (hms.stops rest) with hs | hl
    · rcases hms.isShort_or_meetsLong rest with hss | hls
      · exact .inl (.obj hw hs hss)
      · exact .inr (.members hw hs hls)
    · exact .inr (.member hw hl)

theorem DenotesItems.isShort_or_meetsLong : ∀ {depth : Nat} {vs : List Json} {t : List Char},
    DenotesItems fits vs t → ∀ rest : List Char,
      DenotesItems IsShort vs t ∨ MeetsInItems (fun _ ↦ BeginsLong) depth (t ++ rest)
  | _, _, _, .nil hw, _ => .inl (.nil hw)
  | _, _, _, .cons hw hx hv hvs, rest => by
    rw [List.append_assoc, List.cons_append, List.append_assoc, List.append_assoc]
    rcases hv.isShort_or_meetsLong (hvs.stops rest) with hs | hm
    · rcases hvs.isShort_or_meetsLong rest with hss | hms
      · exact .inl (.cons hw hx hs hss)
      · exact .inr (.later hw hx hs hms)
    · exact .inr (.here hw hx hm)

theorem DenotesMember.isShort_or_meetsLong : ∀ {depth : Nat} {m : Text × Json} {t rest : List Char},
    DenotesMember fits m t → Stops rest →
      DenotesMember IsShort m t ∨ MeetsInMember (fun _ ↦ BeginsLong) depth (t ++ rest)
  | _, _, _, rest, .mk hk hp hw hx hv, hr => by
    rw [List.append_assoc, List.append_assoc, List.cons_append, List.append_assoc]
    rcases hv.isShort_or_meetsLong hr with hs | hm
    · exact .inl (.mk hk hp hw hx hs)
    · exact .inr (.mk hk hp hw hx hm)

theorem DenotesMembers.isShort_or_meetsLong : ∀ {depth : Nat} {ms : List (Text × Json)} {t : List Char},
    DenotesMembers fits ms t → ∀ rest : List Char,
      DenotesMembers IsShort ms t ∨ MeetsInMembers (fun _ ↦ BeginsLong) depth (t ++ rest)
  | _, _, _, .nil hw, _ => .inl (.nil hw)
  | _, _, _, .cons hw hx hm hms, rest => by
    rw [List.append_assoc, List.cons_append, List.append_assoc, List.append_assoc]
    rcases hm.isShort_or_meetsLong (hms.stops rest) with hs | hl
    · rcases hms.isShort_or_meetsLong rest with hss | hls
      · exact .inl (.cons hw hx hs hss)
      · exact .inr (.later hw hx hs hls)
    · exact .inr (.here hw hx hl)

end

theorem IsDocument.isShort_or_meetsLong {v : Json} {text : List Char} (h : IsDocument fits v text) :
    IsDocument IsShort v text ∨ MeetsLongInteger text := by
  obtain ⟨w, t, w', hw, hv, hw', rfl⟩ := h
  have hr : Stops w' := by
    rw [← List.append_nil w']
    exact stops_of_isBlank hw' stops_nil
  rcases hv.isShort_or_meetsLong hr with hs | hm
  · exact .inl ⟨w, t, w', hw, hs, hw', rfl⟩
  · exact .inr ⟨w, t ++ w', hw, hm, rfl⟩

end

/-! ## What is read -/

/-- What can keep a text from being read with nothing wrong in it. -/
inductive Obstacle where
  | longInteger
  | nesting

namespace Obstacle

def refusal : Obstacle → Refusal
  | .longInteger => .longInteger
  | .nesting => .tooDeep

/-- The text that is left begins with the obstacle. -/
def Begins (limit : Nat) : Obstacle → Nat → List Char → Prop
  | .longInteger, _ => BeginsLong
  | .nesting, depth => BeginsDeep limit depth

end Obstacle

/-- The text explains what reading it comes to: it begins with a text of what was read, or it meets the obstacle for which
it is refused. Nothing is asked of a fault. -/
inductive Explains {A : Type} (denotes : A → List Char → Prop) (meets : Obstacle → List Char → Prop) (s : List Char) :
    Reading A → Prop where
  | ok {a : A} {t rest : List Char} (h : denotes a t) (hs : s = t ++ rest) : Explains denotes meets s (.ok (a, rest))
  | obstacle (o : Obstacle) (h : meets o s) : Explains denotes meets s (.error o.refusal)
  | fault (cause : Cause) (rest : List Char) : Explains denotes meets s (.error (.fault cause rest))

namespace Explains

variable {A B : Type} {denotes : A → List Char → Prop} {denotes' : B → List Char → Prop}
  {meets meets' : Obstacle → List Char → Prop} {s s' rest : List Char}

theorem exists_of_ok {a : A} (h : Explains denotes meets s (.ok (a, rest))) : ∃ t, denotes a t ∧ s = t ++ rest := by
  cases h with
  | ok h hs => exact ⟨_, h, hs⟩

theorem of_error {x : Refusal} (h : Explains denotes meets s (.error x)) (hmeets : ∀ o, meets o s → meets' o s') :
    Explains denotes' meets' s' (.error x) := by
  cases h with
  | obstacle o h => exact .obstacle o (hmeets o h)
  | fault cause rest => exact .fault cause rest

/-- What is refused for an obstacle meets it. -/
theorem meets_of_error {o : Obstacle} (h : Explains denotes meets s (.error o.refusal)) : meets o s := by
  generalize hx : o.refusal = x at h
  cases h with
  | obstacle o' h =>
    have ho : o = o' := by
      cases o <;> cases o' <;> first | rfl | cases hx
    exact ho ▸ h
  | fault cause rest => cases o <;> cases hx

/-- Two readings, one behind the other. -/
theorem bind {x : Reading A} {f : A × List Char → Reading B} (h : Explains denotes meets s x)
    (hok : ∀ {a t rest}, denotes a t → s = t ++ rest → Explains denotes' meets' s' (f (a, rest)))
    (hmeets : ∀ o, meets o s → meets' o s') : Explains denotes' meets' s' (x.bind f) := by
  cases h with
  | ok h hs => exact hok h hs
  | obstacle o h => exact .obstacle o (hmeets o h)
  | fault cause rest => exact .fault cause rest

end Explains

end ClusterMatrix.Json

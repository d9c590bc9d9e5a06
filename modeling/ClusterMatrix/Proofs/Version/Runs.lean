import ClusterMatrix.Proofs.Text.Digits
import ClusterMatrix.Version.Coerce
import ClusterMatrix.Version.Runs

/-!
# Cutting a text into runs

`runs` cuts a text into its maximal runs of digits: there is one way to do so, and the runs are it. The version that
runs spell begins with the first run that is short enough, and there is none if all are too long.
-/

namespace ClusterMatrix.Version

open Text

variable {s t : List Char} {rs : List Run}

/-- The runs cut the text: each stands behind its separators, has a digit and holds nothing else, and no digit stands
behind it. What is left behind the last run holds no digit. -/
inductive Cut : List Char → List Run → Prop where
  | tail {s : List Char} (hs : ∀ c ∈ s, c.isDigit = false) : Cut s []
  | run {b ds t : List Char} {rs : List Run} (hb : ∀ c ∈ b, c.isDigit = false) (hd : ∀ c ∈ ds, c.isDigit = true)
      (hne : ds ≠ []) (ht : NoDigit t) (h : Cut t rs) : Cut (b ++ (ds ++ t)) (⟨b, ds⟩ :: rs)

theorem noDigit_of_forall (hs : ∀ c ∈ s, c.isDigit = false) : NoDigit s :=
  fun c hc ↦ hs c (List.mem_of_mem_head? hc)

/-- One character more in front of a text changes its runs as `consRun` tells. -/
theorem Cut.cons (c : Char) (h : Cut s rs) : Cut (c :: s) (consRun c rs) := by
  cases hc : c.isDigit with
  | true =>
    have hd : ∀ d ∈ [c], d.isDigit = true := List.forall_mem_singleton.2 hc
    cases h with
    | tail hs =>
      rw [consRun, if_pos hc]
      exact .run (b := []) nofun hd (List.cons_ne_nil _ _) (noDigit_of_forall hs) (.tail hs)
    | @run b ds t rs hb hds hne ht h =>
      rw [consRun, if_pos hc]
      cases b with
      | nil =>
        rw [if_pos rfl]
        exact .run (b := []) nofun (List.forall_mem_cons.2 ⟨hc, hds⟩) (List.cons_ne_nil c ds) ht h
      | cons d b =>
        rw [if_neg (List.cons_ne_nil d b)]
        refine .run (b := []) nofun hd (List.cons_ne_nil _ _) ?_ (.run hb hds hne ht h)
        exact noDigit_cons_iff.2 (hb d List.mem_cons_self)
  | false =>
    cases h with
    | tail hs =>
      rw [consRun, if_neg (Bool.eq_false_iff.1 hc)]
      exact .tail (List.forall_mem_cons.2 ⟨hc, hs⟩)
    | @run b ds t rs hb hds hne ht h =>
      rw [consRun, if_neg (Bool.eq_false_iff.1 hc)]
      exact .run (b := c :: b) (List.forall_mem_cons.2 ⟨hc, hb⟩) hds hne ht h

theorem cut_runs (s : List Char) : Cut s (runs s) := by
  induction s with
  | nil => exact .tail nofun
  | cons c s ih => exact ih.cons c

/-! ## There is one way to cut -/

theorem runs_cons (c : Char) (s : List Char) : runs (c :: s) = consRun c (runs s) := rfl

theorem runs_separators (hs : ∀ c ∈ s, c.isDigit = false) : runs s = [] := by
  induction s with
  | nil => rfl
  | cons c s ih =>
    rw [List.forall_mem_cons] at hs
    rw [runs_cons, ih hs.2, consRun, if_neg (Bool.eq_false_iff.1 hs.1)]

theorem runs_append_separators {b b' ds : List Char} (hb : ∀ c ∈ b, c.isDigit = false)
    (h : runs t = ⟨b', ds⟩ :: rs) : runs (b ++ t) = ⟨b ++ b', ds⟩ :: rs := by
  induction b with
  | nil => exact h
  | cons c b ih =>
    rw [List.forall_mem_cons] at hb
    rw [List.cons_append, runs_cons, ih hb.2, consRun, if_neg (Bool.eq_false_iff.1 hb.1)]
    rfl

/-- A digit in front of a text without one at its front is a run of its own. -/
theorem consRun_of_noDigit {c : Char} (hc : c.isDigit = true) (ht : NoDigit t) (h : Cut t rs) :
    consRun c rs = ⟨[], [c]⟩ :: rs := by
  cases h with
  | tail => rw [consRun, if_pos hc]
  | @run b ds t rs hb hd hne =>
    rw [consRun, if_pos hc, if_neg]
    rintro rfl
    exact not_noDigit_append hd hne t ht

theorem runs_append_digits {ds : List Char} (hd : ∀ c ∈ ds, c.isDigit = true) (hne : ds ≠ []) (ht : NoDigit t) :
    runs (ds ++ t) = ⟨[], ds⟩ :: runs t := by
  induction ds with
  | nil => exact absurd rfl hne
  | cons c ds ih =>
    rw [List.forall_mem_cons] at hd
    rw [List.cons_append, runs_cons]
    cases ds with
    | nil => exact consRun_of_noDigit hd.1 ht (cut_runs t)
    | cons d ds => rw [ih hd.2 (List.cons_ne_nil d ds), consRun, if_pos hd.1, if_pos rfl]

/-- The runs of a text are the only ones that cut it. -/
theorem cut_iff : Cut s rs ↔ runs s = rs := by
  constructor
  · intro h
    induction h with
    | tail hs => exact runs_separators hs
    | run hb hd hne ht _ ih =>
      rw [runs_append_separators hb (runs_append_digits hd hne ht), List.append_nil, ih]
  · rintro rfl
    exact cut_runs s

theorem Cut.isDigit (h : Cut s rs) : ∀ r ∈ rs, ∀ c ∈ r.digits, c.isDigit = true := by
  induction h with
  | tail => exact nofun
  | run _ hd _ _ _ ih => exact List.forall_mem_cons.2 ⟨hd, ih⟩

/-! ## The version of runs -/

theorem Run.isShort_iff {r : Run} : r.isShort = true ↔ r.digits.length ≤ maxComponentDigits := decide_eq_true_iff

/-- A run continues if a single point and a short run stand in front. -/
theorem continued_eq_some_iff {n : Nat} {rest : List Run} :
    continued rs = some (n, rest) ↔ ∃ r, rs = r :: rest ∧ r.between = ['.'] ∧ r.isShort = true ∧ r.value = n := by
  cases rs with
  | nil => exact ⟨nofun, nofun⟩
  | cons r rs =>
    rw [continued]
    split
    · rename_i h
      rw [Option.some.injEq, Prod.mk.injEq]
      constructor
      · rintro ⟨rfl, rfl⟩
        exact ⟨r, rfl, h.1, h.2, rfl⟩
      · rintro ⟨_, h', -, -, rfl⟩
        obtain ⟨rfl, rfl⟩ := List.cons.inj h'
        exact ⟨rfl, rfl⟩
    · rename_i h
      constructor
      · exact nofun
      · rintro ⟨_, h', hb, hs, -⟩
        obtain ⟨rfl, rfl⟩ := List.cons.inj h'
        exact absurd ⟨hb, hs⟩ h

/-- The further components that runs give: that of the first run, if it continues, and that of the second one, if it
continues further. -/
def furtherOf (rs : List Run) : Nat × Nat :=
  ((continued rs).elim 0 Prod.fst, ((continued rs).bind fun c ↦ continued c.2).elim 0 Prod.fst)

theorem ofRuns?_cons (r : Run) (rs : List Run) :
    ofRuns? (r :: rs) = if r.isShort then some ⟨r.value, (furtherOf rs).1, (furtherOf rs).2⟩ else ofRuns? rs := by
  rw [ofRuns?, furtherOf]
  split
  · cases continued rs with
    | none => rfl
    | some c =>
      rw [Option.bind_some]
      dsimp only
      cases continued c.2 <;> rfl
  · rfl

theorem ofRuns?_of_long (h : ∀ r ∈ rs, r.isShort = false) (rest : List Run) : ofRuns? (rs ++ rest) = ofRuns? rest := by
  induction rs with
  | nil => rfl
  | cons r rs ih =>
    rw [List.forall_mem_cons] at h
    rw [List.cons_append, ofRuns?_cons, if_neg (Bool.eq_false_iff.1 h.1), ih h.2]

/-- All runs are too long, or a first one is short enough. -/
theorem long_or_exists_short (rs : List Run) : (∀ r ∈ rs, r.isShort = false) ∨
    ∃ long r rest, rs = long ++ r :: rest ∧ (∀ q ∈ long, q.isShort = false) ∧ r.isShort = true := by
  induction rs with
  | nil => exact .inl nofun
  | cons r rs ih =>
    cases hr : r.isShort with
    | true => exact .inr ⟨[], r, rs, rfl, nofun, hr⟩
    | false =>
      rcases ih with h | ⟨long, q, rest, rfl, hlong, hq⟩
      · exact .inl (List.forall_mem_cons.2 ⟨hr, h⟩)
      · exact .inr ⟨r :: long, q, rest, rfl, List.forall_mem_cons.2 ⟨hr, hlong⟩, hq⟩

theorem ofRuns?_of_short {long rest : List Run} {r : Run} (hlong : ∀ q ∈ long, q.isShort = false)
    (hr : r.isShort = true) :
    ofRuns? (long ++ r :: rest) = some ⟨r.value, (furtherOf rest).1, (furtherOf rest).2⟩ := by
  rw [ofRuns?_of_long hlong, ofRuns?_cons, if_pos hr]

/-- Runs spell a version unless they are all too long. -/
theorem ofRuns?_eq_none_iff : ofRuns? rs = none ↔ ∀ r ∈ rs, r.isShort = false := by
  constructor
  · intro h
    rcases long_or_exists_short rs with hlong | ⟨long, r, rest, rfl, hlong, hr⟩
    · exact hlong
    · rw [ofRuns?_of_short hlong hr] at h
      cases h
  · intro h
    have hnone := ofRuns?_of_long h []
    rwa [List.append_nil] at hnone

/-- The version of runs is that of the first short one and those that continue it. -/
theorem ofRuns?_eq_some_iff {w : Version} : ofRuns? rs = some w ↔
    ∃ long r rest, rs = long ++ r :: rest ∧ (∀ q ∈ long, q.isShort = false) ∧ r.isShort = true ∧
      w = ⟨r.value, (furtherOf rest).1, (furtherOf rest).2⟩ := by
  constructor
  · intro h
    rcases long_or_exists_short rs with hlong | ⟨long, r, rest, rfl, hlong, hr⟩
    · rw [ofRuns?_eq_none_iff.2 hlong] at h
      cases h
    · rw [ofRuns?_of_short hlong hr, Option.some.injEq] at h
      exact ⟨long, r, rest, rfl, hlong, hr, h.symm⟩
  · rintro ⟨long, r, rest, rfl, hlong, hr, rfl⟩
    exact ofRuns?_of_short hlong hr

/-! ## Bounds -/

theorem Run.value_lt {r : Run} (hd : ∀ c ∈ r.digits, c.isDigit = true) (hs : r.isShort = true) :
    r.value < 10 ^ maxComponentDigits :=
  Nat.lt_of_lt_of_le (ofDigitChars_zero_lt hd) (Nat.pow_le_pow_right (by decide) (Run.isShort_iff.1 hs))

theorem continued_lt (hd : ∀ r ∈ rs, ∀ c ∈ r.digits, c.isDigit = true) :
    (continued rs).elim 0 Prod.fst < 10 ^ maxComponentDigits := by
  cases hc : continued rs with
  | none => exact Nat.pow_pos (by decide)
  | some c =>
    obtain ⟨r, rfl, -, hs, hv⟩ := continued_eq_some_iff.1 hc
    change c.1 < _
    rw [← hv]
    exact Run.value_lt (hd r List.mem_cons_self) hs

/-- No component has more than sixteen digits. -/
theorem ofRuns?_lt {w : Version} (hd : ∀ r ∈ rs, ∀ c ∈ r.digits, c.isDigit = true) (h : ofRuns? rs = some w) :
    w.major < 10 ^ maxComponentDigits ∧ w.minor < 10 ^ maxComponentDigits ∧ w.patch < 10 ^ maxComponentDigits := by
  obtain ⟨long, r, rest, rfl, -, hr, rfl⟩ := ofRuns?_eq_some_iff.1 h
  rw [List.forall_mem_append, List.forall_mem_cons] at hd
  obtain ⟨-, hd, hrest⟩ := hd
  refine ⟨Run.value_lt hd hr, continued_lt hrest, ?_⟩
  rw [furtherOf]
  cases hc : continued rest with
  | none => exact Nat.pow_pos (by decide)
  | some c =>
    obtain ⟨q, rfl, -⟩ := continued_eq_some_iff.1 hc
    exact continued_lt (List.forall_mem_cons.1 hrest).2

end ClusterMatrix.Version

import ClusterMatrix.Version.Coerce
import ClusterMatrix.Proofs.Version.Runs

/-!
# The search finds what the runs spell

The search for a version tries places from left to right, and at each place many ways to read components. It comes to
the version of the maximal runs of digits all the same: at the front of a short run the longest reading wins, a cut run
is always followed by a digit, where no version may end, and so a run that is too long gives nothing.
-/

namespace ClusterMatrix.Version

open Text

variable {s t ds : List Char} {rs : List Run}

theorem endsBefore_iff : endsBefore s = true ↔ NoDigit s := by
  cases s with
  | nil => exact ⟨fun _ ↦ noDigit_nil, fun _ ↦ rfl⟩
  | cons c s => rw [endsBefore, Bool.not_eq_true', noDigit_cons_iff]

/-! ## Components -/

/-- A cut run leaves a digit behind. -/
theorem not_noDigit_drop {n : Nat} (hd : ∀ c ∈ ds, c.isDigit = true) (hn : n < ds.length) (t : List Char) :
    ¬ NoDigit ((ds ++ t).drop n) := by
  rw [List.drop_append_of_le_length (Nat.le_of_lt hn)]
  refine not_noDigit_append (fun c hc ↦ hd c (List.mem_of_mem_drop hc)) ?_ t
  rw [Ne, List.drop_eq_nil_iff]
  omega

theorem components_of_noDigit (hs : NoDigit s) : components s = [] := by
  have hnone : ∀ c ∈ ([] : List Char), c.isDigit = true := nofun
  have h : s.takeWhile Char.isDigit = [] := takeWhile_isDigit_append hnone hs
  rw [components, h]
  rfl

/-- A short run is read as a whole first, and each other reading cuts it. -/
theorem components_short (hd : ∀ c ∈ ds, c.isDigit = true) (hne : ds ≠ []) (hl : ds.length ≤ maxComponentDigits)
    (ht : NoDigit t) : ∃ cut, components (ds ++ t) = (Nat.ofDigitChars 10 ds 0, t) :: cut ∧
      ∀ c ∈ cut, ¬ NoDigit c.2 := by
  obtain ⟨n, hn⟩ : ∃ n, ds.length = n + 1 := ⟨ds.length - 1, by have := List.length_pos_iff.2 hne; omega⟩
  refine ⟨(List.range n).reverse.map fun k ↦
    (Nat.ofDigitChars 10 ((ds ++ t).take (k + 1)) 0, (ds ++ t).drop (k + 1)), ?_, ?_⟩
  · rw [components, takeWhile_isDigit_append hd ht, Nat.min_eq_left hl, hn, List.range_succ, List.reverse_append,
      List.reverse_singleton, List.singleton_append, List.map_cons, ← hn, List.take_left, List.drop_left]
  · intro c hc
    obtain ⟨k, hk, rfl⟩ := List.mem_map.1 hc
    rw [List.mem_reverse, List.mem_range] at hk
    exact not_noDigit_drop hd (by omega) t

/-- A long run is cut by each reading. -/
theorem components_long (hd : ∀ c ∈ ds, c.isDigit = true) (hl : maxComponentDigits < ds.length) (ht : NoDigit t) :
    ∀ c ∈ components (ds ++ t), ¬ NoDigit c.2 := by
  intro c hc
  rw [components, takeWhile_isDigit_append hd ht, Nat.min_eq_right (Nat.le_of_lt hl)] at hc
  obtain ⟨k, hk, rfl⟩ := List.mem_map.1 hc
  rw [List.mem_reverse, List.mem_range] at hk
  exact not_noDigit_drop hd (by omega) t

/-! ## Further components -/

theorem furtherComponents_point (s : List Char) :
    furtherComponents ('.' :: s) = (components s).map (fun c ↦ (some c.1, c.2)) ++ [(none, '.' :: s)] := rfl

theorem furtherComponents_of_ne_point (h : ∀ u, s ≠ '.' :: u) : furtherComponents s = [(none, s)] := by
  rw [furtherComponents]
  · rfl
  · exact h

/-- Runs that continue have their first run behind a point. -/
theorem Cut.exists_of_continued {n : Nat} {rest : List Run} (h : Cut s rs) (hc : continued rs = some (n, rest)) :
    ∃ ds t, s = '.' :: (ds ++ t) ∧ (∀ c ∈ ds, c.isDigit = true) ∧ ds ≠ [] ∧ ds.length ≤ maxComponentDigits ∧
      NoDigit t ∧ Cut t rest ∧ n = Nat.ofDigitChars 10 ds 0 := by
  obtain ⟨r, rfl, hb, hs, rfl⟩ := continued_eq_some_iff.1 hc
  cases h with
  | @run b ds t rs _ hd hne ht h =>
    cases hb
    exact ⟨ds, t, rfl, hd, hne, Run.isShort_iff.1 hs, ht, h, rfl⟩

/-- Where a run continues, it is read as a whole first. -/
theorem furtherComponents_of_continued {n : Nat} {rest : List Run} (h : Cut s rs)
    (hc : continued rs = some (n, rest)) : ∃ t cut, furtherComponents s = (some n, t) :: cut ++ [(none, s)] ∧
      (∀ c ∈ cut, ¬ NoDigit c.2) ∧ NoDigit t ∧ Cut t rest := by
  obtain ⟨ds, t, rfl, hd, hne, hl, ht, htrest, rfl⟩ := h.exists_of_continued hc
  obtain ⟨cut, hcomponents, hcut⟩ := components_short hd hne hl ht
  refine ⟨t, cut.map fun c ↦ (some c.1, c.2), ?_, ?_, ht, htrest⟩
  · rw [furtherComponents_point, hcomponents, List.map_cons]
  · rw [List.forall_mem_map]
    exact hcut

/-- Behind a point that no run continues, every component cuts a run. -/
theorem not_noDigit_components_of_not_continued (h : Cut ('.' :: s) rs) (hc : continued rs = none) :
    ∀ c ∈ components s, ¬ NoDigit c.2 := by
  generalize he : '.' :: s = p at h
  cases h with
  | tail hs =>
    subst he
    rw [List.forall_mem_cons] at hs
    rw [components_of_noDigit (noDigit_of_forall hs.2)]
    exact nofun
  | @run b ds t rs hb hd hne ht h =>
    cases b with
    | nil =>
      refine absurd ?_ (not_noDigit_append hd hne t)
      rw [List.nil_append] at he
      rw [← he, noDigit_cons_iff]
      rfl
    | cons d b =>
      obtain ⟨rfl, rfl⟩ := List.cons.inj he
      cases b with
      | nil =>
        apply components_long hd _ ht
        rw [continued] at hc
        split at hc
        · cases hc
        · rename_i hlong
          rw [not_and] at hlong
          exact Nat.lt_of_not_le fun hl ↦ hlong rfl (Run.isShort_iff.2 hl)
      | cons d b =>
        rw [List.forall_mem_cons, List.forall_mem_cons] at hb
        have hs : NoDigit (d :: (b ++ (ds ++ t))) := noDigit_cons_iff.2 hb.2.1
        change ∀ c ∈ components (d :: (b ++ (ds ++ t))), ¬ NoDigit c.2
        rw [components_of_noDigit hs]
        exact nofun

/-- Where no run continues, every further component cuts a run. -/
theorem furtherComponents_of_not_continued (h : Cut s rs) (hc : continued rs = none) :
    ∃ cut, furtherComponents s = cut ++ [(none, s)] ∧ ∀ c ∈ cut, ¬ NoDigit c.2 := by
  by_cases hpoint : ∃ u, s = '.' :: u
  · obtain ⟨u, rfl⟩ := hpoint
    refine ⟨_, furtherComponents_point u, ?_⟩
    rw [List.forall_mem_map]
    exact not_noDigit_components_of_not_continued h hc
  · rw [not_exists] at hpoint
    exact ⟨[], furtherComponents_of_ne_point hpoint, nofun⟩

/-! ## Readings -/

/-- The patch components that can be read at the front, where a version may end behind them. -/
def patches (s : List Char) : List (Option Nat × List Char) :=
  (furtherComponents s).filter fun c ↦ endsBefore c.2

theorem furtherComponents_of_digit (h : ¬ NoDigit s) : furtherComponents s = [(none, s)] := by
  apply furtherComponents_of_ne_point
  rintro u rfl
  exact h (noDigit_cons_iff.2 rfl)

/-- In front of a digit no version ends. -/
theorem patches_of_digit (h : ¬ NoDigit s) : patches s = [] := by
  rw [patches, furtherComponents_of_digit h, List.filter_cons, if_neg (mt endsBefore_iff.1 h), List.filter_nil]

/-- The first patch is that of the run that continues, if one does. -/
theorem head?_patches (h : Cut s rs) (hs : NoDigit s) :
    (patches s).head?.map (fun c ↦ c.1.getD 0) = some ((continued rs).elim 0 Prod.fst) := by
  rw [patches]
  cases hc : continued rs with
  | none =>
    obtain ⟨cut, hfurther, hcut⟩ := furtherComponents_of_not_continued h hc
    have hnone : cut.filter (fun c ↦ endsBefore c.2) = [] := by
      rw [List.filter_eq_nil_iff]
      exact fun c hc he ↦ hcut c hc (endsBefore_iff.1 he)
    rw [hfurther, List.filter_append, hnone, List.nil_append, List.filter_cons, if_pos (endsBefore_iff.2 hs)]
    rfl
  | some c =>
    obtain ⟨t, cut, hfurther, -, ht, -⟩ := furtherComponents_of_continued h hc
    rw [hfurther, List.cons_append, List.filter_cons, if_pos (endsBefore_iff.2 ht)]
    rfl

/-- The further components that can be read at the front, in the order of preference. -/
def furtherReadings (s : List Char) : List (Nat × Nat) :=
  (furtherComponents s).flatMap fun minor ↦ (patches minor.2).map fun patch ↦ (minor.1.getD 0, patch.1.getD 0)

theorem readings_eq (s : List Char) : readings s =
    (components s).flatMap fun major ↦ (furtherReadings major.2).map fun further ↦ ⟨major.1, further.1, further.2⟩ := by
  simp only [readings, furtherReadings, patches, List.map_flatMap, List.map_map, Function.comp_def]

theorem flatMap_eq_nil_of_digit {α β : Type} {cut : List (α × List Char)} {f : α × List Char → List β}
    (h : ∀ c ∈ cut, ¬ NoDigit c.2) (hf : ∀ c, ¬ NoDigit c.2 → f c = []) : cut.flatMap f = [] := by
  rw [List.flatMap_eq_nil_iff]
  exact fun c hc ↦ hf c (h c hc)

theorem furtherReadings_of_digit (h : ¬ NoDigit s) : furtherReadings s = [] := by
  rw [furtherReadings, furtherComponents_of_digit h, List.flatMap_singleton, patches_of_digit h, List.map_nil]

/-- The first reading behind a run takes what the runs give. -/
theorem head?_furtherReadings (h : Cut s rs) (hs : NoDigit s) : (furtherReadings s).head? = some (furtherOf rs) := by
  have hcutnil : ∀ c : Option Nat × List Char, ¬ NoDigit c.2 →
      (patches c.2).map (fun patch ↦ (c.1.getD 0, patch.1.getD 0)) = [] := by
    intro c hc
    rw [patches_of_digit hc, List.map_nil]
  rw [furtherReadings, furtherOf]
  cases hc : continued rs with
  | none =>
    obtain ⟨cut, hfurther, hcut⟩ := furtherComponents_of_not_continued h hc
    have hpatch := head?_patches h hs
    rw [hc, Option.map_eq_some_iff] at hpatch
    obtain ⟨patch, hhead, hpatch⟩ := hpatch
    rw [hfurther, List.flatMap_append, flatMap_eq_nil_of_digit hcut hcutnil, List.nil_append,
      List.flatMap_singleton, List.head?_map, hhead, Option.map_some, hpatch]
    rfl
  | some c =>
    obtain ⟨t, cut, hfurther, -, ht, hrest⟩ := furtherComponents_of_continued h hc
    have hpatch := head?_patches hrest ht
    rw [Option.map_eq_some_iff] at hpatch
    obtain ⟨patch, hhead, hpatch⟩ := hpatch
    rw [hfurther, List.cons_append, List.flatMap_cons, List.head?_append, List.head?_map, hhead, Option.map_some, hpatch]
    rfl

/-- The first reading of a short run takes the whole run. -/
theorem head?_readings_short (hd : ∀ c ∈ ds, c.isDigit = true) (hne : ds ≠ []) (hl : ds.length ≤ maxComponentDigits)
    (ht : NoDigit t) (h : Cut t rs) :
    (readings (ds ++ t)).head? = some ⟨Nat.ofDigitChars 10 ds 0, (furtherOf rs).1, (furtherOf rs).2⟩ := by
  obtain ⟨cut, hcomponents, -⟩ := components_short hd hne hl ht
  rw [readings_eq, hcomponents, List.flatMap_cons, List.head?_append, List.head?_map, head?_furtherReadings h ht]
  rfl

theorem readings_long (hd : ∀ c ∈ ds, c.isDigit = true) (hl : maxComponentDigits < ds.length) (ht : NoDigit t) :
    readings (ds ++ t) = [] := by
  rw [readings_eq]
  apply flatMap_eq_nil_of_digit (components_long hd hl ht)
  intro c hc
  rw [furtherReadings_of_digit hc, List.map_nil]

theorem readings_of_noDigit (hs : NoDigit s) : readings s = [] := by
  rw [readings_eq, components_of_noDigit hs, List.flatMap_nil]

/-! ## The search -/

/-- A separator in front of a text changes nothing. -/
theorem coerce?_separator {c : Char} (hc : c.isDigit = false) (s : List Char) : coerce? (c :: s) = coerce? s := by
  rw [coerce?, List.findSome?_cons, readings_of_noDigit (noDigit_cons_iff.2 hc), List.head?_nil, behindSeparators,
    if_neg (Bool.eq_false_iff.1 hc), coerce?]

theorem coerce?_separators {b : List Char} (hb : ∀ c ∈ b, c.isDigit = false) (s : List Char) :
    coerce? (b ++ s) = coerce? s := by
  induction b with
  | nil => rfl
  | cons c b ih =>
    rw [List.forall_mem_cons] at hb
    rw [List.cons_append, coerce?_separator hb.1, ih hb.2]

/-- Inside a run there is no place to begin at. -/
theorem behindSeparators_digits (hd : ∀ c ∈ ds, c.isDigit = true) (t : List Char) :
    behindSeparators (ds ++ t) = behindSeparators t := by
  induction ds with
  | nil => rfl
  | cons c ds ih =>
    rw [List.forall_mem_cons] at hd
    rw [List.cons_append, behindSeparators, if_pos hd.1, ih hd.2]

/-- A run at the front is tried first, and then what is behind it. -/
theorem coerce?_digits (hd : ∀ c ∈ ds, c.isDigit = true) (ht : NoDigit t) :
    coerce? (ds ++ t) = (readings (ds ++ t)).head?.or (coerce? t) := by
  have hbehind : coerce? t = (behindSeparators t).findSome? fun u ↦ (readings u).head? := by
    rw [coerce?, List.findSome?_cons, readings_of_noDigit ht, List.head?_nil]
  rw [coerce?, List.findSome?_cons, behindSeparators_digits hd, hbehind]
  cases (readings (ds ++ t)).head? <;> rfl

/-- The search finds the version that the runs of the text spell. -/
theorem coerce?_of_cut (h : Cut s rs) : coerce? s = ofRuns? rs := by
  induction h with
  | @tail s hs =>
    rw [← List.append_nil s, coerce?_separators hs]
    rfl
  | @run b ds t rs hb hd hne ht h ih =>
    rw [coerce?_separators hb, coerce?_digits hd ht, ih, ofRuns?_cons]
    by_cases hl : ds.length ≤ maxComponentDigits
    · rw [head?_readings_short hd hne hl ht h, if_pos (Run.isShort_iff.2 hl), Option.some_or]
      rfl
    · rw [readings_long hd (Nat.lt_of_not_le hl) ht, List.head?_nil, Option.none_or, if_neg (mt Run.isShort_iff.1 hl)]

theorem coerce?_eq_ofRuns? (s : List Char) : coerce? s = ofRuns? (runs s) := coerce?_of_cut (cut_runs s)

end ClusterMatrix.Version

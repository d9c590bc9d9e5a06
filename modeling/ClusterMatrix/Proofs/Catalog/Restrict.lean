import ClusterMatrix.Proofs.Catalog.Selection

/-!
# Restricting a catalog

There are two ways to the selections of the allowed distributions: a review may skip the entries of all others, or the
catalog is restricted first and reviewed under the names that are left. Both come to the same selections, and the first
entry that one of them cannot judge stops the other as well.
-/

namespace ClusterMatrix.Catalog

variable {allow : AllowList} {es kept listed : List Json} {f : Fault}

/-! ## Names -/

theorem names_eq_ok_iff : names es = .ok listed ↔ List.Forall₂ (fun e n ↦ name e = .ok n) es listed := by
  induction es generalizing listed with
  | nil =>
    rw [names, Except.ok.injEq, List.forall₂_nil_left_iff]
    exact eq_comm
  | cons e es ih =>
    rw [names, List.forall₂_cons_left_iff]
    cases hn : name e with
    | error f => exact ⟨nofun, nofun⟩
    | ok n =>
      cases hns : names es with
      | error f =>
        refine ⟨nofun, ?_⟩
        rintro ⟨_, ns, -, h, -⟩
        rw [← ih, hns] at h
        cases h
      | ok ns =>
        rw [Except.ok.injEq]
        constructor
        · rintro rfl
          exact ⟨n, ns, rfl, ih.1 hns, rfl⟩
        · rintro ⟨n', ns', hn', h, rfl⟩
          rw [← ih, hns] at h
          cases h
          cases hn'
          rfl

/-- Entries that all have names can be listed by them. -/
theorem exists_names_of_forall (h : ∀ e ∈ es, ∃ n, name e = .ok n) : ∃ listed, names es = .ok listed := by
  induction es with
  | nil => exact ⟨[], rfl⟩
  | cons e es ih =>
    rw [List.forall_mem_cons] at h
    obtain ⟨n, hn⟩ := h.1
    obtain ⟨ns, hns⟩ := ih h.2
    exact ⟨n :: ns, by rw [names, hn, hns]⟩

theorem exists_name_of_names (h : names es = .ok listed) : ∀ e ∈ es, ∃ n ∈ listed, name e = .ok n :=
  exists_mem_of_forall₂ (names_eq_ok_iff.1 h)

/-! ## Restrictions -/

/-- The entry has a name that is allowed. -/
def isKept (allow : AllowList) (e : Json) : Bool :=
  match name e with
  | .ok n => admits allow n
  | .error _ => false

theorem isKept_of_name {e n : Json} (h : name e = .ok n) : isKept allow e = admits allow n := by
  rw [isKept, h]

/-- A restriction needs the names of all entries, and keeps those entries whose name is allowed. -/
theorem restrict_eq (allow : AllowList) (es : List Json) :
    restrict allow es = (names es).map fun _ ↦ es.filter (isKept allow) := by
  induction es with
  | nil => rfl
  | cons e es ih =>
    rw [restrict, names]
    cases hn : name e with
    | error f => rfl
    | ok n =>
      rw [ih]
      cases names es with
      | error f => rfl
      | ok ns =>
        change Except.ok _ = Except.ok _
        rw [List.filter_cons, isKept_of_name hn]

theorem restrict_eq_error_iff : restrict allow es = .error f ↔ names es = .error f := by
  rw [restrict_eq]
  cases names es with
  | error g => exact Iff.rfl
  | ok ns => exact ⟨nofun, nofun⟩

theorem restrict_eq_ok_iff :
    restrict allow es = .ok kept ↔ (∃ listed, names es = .ok listed) ∧ es.filter (isKept allow) = kept := by
  rw [restrict_eq]
  cases names es with
  | error g => exact ⟨nofun, fun h ↦ nomatch h.1⟩
  | ok ns =>
    change Except.ok _ = Except.ok _ ↔ _
    rw [Except.ok.injEq]
    exact ⟨fun h ↦ ⟨⟨ns, rfl⟩, h⟩, fun h ↦ h.2⟩

/-- The kept entries have allowed names. -/
theorem exists_name_of_restrict (h : restrict allow es = .ok kept) :
    ∀ e ∈ kept, ∃ n, name e = .ok n ∧ admits allow n = true := by
  obtain ⟨-, rfl⟩ := restrict_eq_ok_iff.1 h
  intro e he
  have hk := (List.mem_filter.1 he).2
  unfold isKept at hk
  split at hk
  · rename_i n hn
    exact ⟨n, hn, hk⟩
  · cases hk

/-! ## Reviews -/

/-- A judgement asks only whether the name of the entry is wanted. -/
theorem judge_congr {a b : Json → Bool} {e : Json} (h : ∀ n, name e = .ok n → a n = b n) : judge a e = judge b e := by
  rw [judge, judge]
  cases hn : name e with
  | error f => rfl
  | ok n => simp only [h n hn]

theorem review_congr {a b : Json → Bool} (h : ∀ e ∈ es, ∀ n, name e = .ok n → a n = b n) :
    review a es = review b es := by
  induction es with
  | nil => rfl
  | cons e es ih =>
    rw [List.forall_mem_cons] at h
    rw [review, review, judge_congr h.1, ih h.2]

def Verdict.isSkipped : Verdict → Bool
  | .skipped _ => true
  | _ => false

/-- A wanted entry is not skipped. -/
theorem isSkipped_of_judge {a : Json → Bool} {e n : Json} {v : Verdict} (hn : name e = .ok n) (ha : a n = true)
    (h : judge a e = .ok v) : v.isSkipped = false := by
  unfold judge at h
  rw [hn] at h
  dsimp only at h
  rw [if_pos ha] at h
  split at h
  · cases h
  · split at h
    · cases h
    · split at h
      · cases h
      · cases h
        rfl
      · cases h
        rfl

/-- The review of the kept entries is the review of all of them, but for the verdicts that skip one. -/
theorem select_filter_isKept (h : ∀ e ∈ es, ∃ n, name e = .ok n) :
    select allow (es.filter (isKept allow)) =
      ⟨(select allow es).verdicts.filter fun v ↦ !v.isSkipped, (select allow es).fault?⟩ := by
  induction es with
  | nil => rfl
  | cons e es ih =>
    rw [List.forall_mem_cons] at h
    obtain ⟨n, hn⟩ := h.1
    have ih := ih h.2
    rw [select, select] at ih ⊢
    cases ha : admits allow n with
    | true =>
      rw [List.filter_cons_of_pos (by rw [isKept_of_name hn, ha])]
      cases hj : judge (admits allow) e with
      | error f =>
        rw [review_cons_of_error hj, review_cons_of_error hj]
        rfl
      | ok v =>
        rw [review_cons_of_ok hj, review_cons_of_ok hj, ih,
          List.filter_cons_of_pos (by rw [isSkipped_of_judge hn ha hj]; rfl)]
    | false =>
      rw [List.filter_cons_of_neg (by rw [isKept_of_name hn, ha]; exact Bool.false_ne_true),
        review_cons_of_ok (judge_of_not_wanted hn ha)]
      exact ih

/-- A verdict that skips an entry selects nothing. -/
theorem filterMap_selection?_filter (vs : List Verdict) :
    (vs.filter fun v ↦ !v.isSkipped).filterMap Verdict.selection? = vs.filterMap Verdict.selection? := by
  rw [List.filterMap_filter]
  congr 1
  funext v
  cases v <;> rfl

/-- Restricting the catalog and reviewing all that is left comes to the selections of the allow list. -/
theorem selections_selectAll_of_restrict (h : restrict allow es = .ok kept) :
    (selectAll kept).selections = (select allow es).selections := by
  have hall : selectAll kept = select allow kept := by
    apply review_congr
    intro e he n hn
    obtain ⟨n', hn', ha⟩ := exists_name_of_restrict h e he
    rw [hn] at hn'
    cases hn'
    exact ha.symm
  obtain ⟨⟨listed, hl⟩, rfl⟩ := restrict_eq_ok_iff.1 h
  have hnames : ∀ e ∈ es, ∃ n, name e = .ok n := by
    intro e he
    obtain ⟨n, -, hn⟩ := exists_name_of_names hl e he
    exact ⟨n, hn⟩
  rw [hall, select_filter_isKept hnames, Review.selections, Review.selections, filterMap_selection?_filter]

/-- The names that are left admit what is left. -/
theorem review_names_eq_selectAll (h : names kept = .ok listed) :
    review (fun n ↦ decide (n ∈ listed)) kept = selectAll kept := by
  apply review_congr
  intro e he n hn
  obtain ⟨n', hm, hn'⟩ := exists_name_of_names h e he
  rw [hn] at hn'
  cases hn'
  exact decide_eq_true hm

/-- The two ways agree on a catalog: the restriction stops where the comparison with the allow list stops, and the
review of what is left, under the names that are left, comes to what the allow list selects from the whole catalog, be
it selections or a fault. -/
structure SameSelections (allow : AllowList) (catalog : List Json) : Prop where
  stops : ∀ f, restrict allow catalog = .error f ↔ missing allow catalog = .error f
  selects : ∀ kept, restrict allow catalog = .ok kept → ∃ listed, names kept = .ok listed ∧
    (review (fun n ↦ decide (n ∈ listed)) kept).selections = (select allow catalog).selections

theorem missing_eq_error_iff : missing allow es = .error f ↔ names es = .error f := by
  rw [missing]
  cases names es with
  | error g => rw [Except.error.injEq, Except.error.injEq]
  | ok ns => exact ⟨nofun, nofun⟩

theorem exists_names_of_restrict (h : restrict allow es = .ok kept) : ∃ listed, names kept = .ok listed := by
  apply exists_names_of_forall
  intro e he
  obtain ⟨n, hn, -⟩ := exists_name_of_restrict h e he
  exact ⟨n, hn⟩

theorem sameSelections (allow : AllowList) (catalog : List Json) : SameSelections allow catalog := by
  refine ⟨fun f ↦ restrict_eq_error_iff.trans missing_eq_error_iff.symm, fun kept h ↦ ?_⟩
  obtain ⟨listed, hl⟩ := exists_names_of_restrict h
  refine ⟨listed, hl, ?_⟩
  rw [review_names_eq_selectAll hl, selections_selectAll_of_restrict h]

end ClusterMatrix.Catalog

import ClusterMatrix.Proofs.Catalog.Absent

/-!
# What becomes of the allowed names

Two walks over a catalog look at the allowed names: one lists the names that the catalog lacks, the other selects
versions and warns of entries without any. On well-typed entries they leave no name out and count none twice: each
allowed name is missing, or selected, or listed without a version to select.
-/

namespace ClusterMatrix.Catalog

/-- An entry lists a distribution of the given name. -/
def hasName (n : Text) (entry : Json) : Bool := decide (listedName entry = .ofText n)

/-- The warning that an entry of the given name has no versions. -/
def bareWarning (n : Text) : Event := .log .warning (.concat ["Distribution ", n, " has no versions, omitting"])

/-- What can become of an allowed name. -/
inductive Fate where
  | missing
  | selected
  | bare
deriving DecidableEq, Repr

/-- The fate befalls a name: it is among the absent names, or a selection has it, or entries are listed under it, none
of them has a version, and there is one warning for each of them. -/
def Fate.Befalls (allow : AllowList) (catalog : List Json) (absent : List Text) (selections : List Selection)
    (events : List Event) (n : Text) : Fate → Prop
  | .missing => n ∈ absent
  | .selected => ∃ s ∈ selections, s.distribution = .ofText n
  | .bare => (∃ e ∈ catalog, hasName n e = true) ∧
      (∀ e ∈ catalog, hasName n e = true → listedVersions e = [] ∧ notice? allow e = some (bareWarning n)) ∧
      events.count (bareWarning n) = catalog.countP (hasName n)

/-- The absent names and the selections tell apart what becomes of each allowed name, and speak of no other. -/
structure Classifies (allow : AllowList) (catalog : List Json) (absent : List Text) (selections : List Selection)
    (events : List Event) : Prop where
  fate : ∀ n ∈ allow, ∃! fate : Fate, fate.Befalls allow catalog absent selections events n
  absent_allowed : ∀ n ∈ absent, n ∈ allow
  selected_allowed : ∀ s ∈ selections, ∃ n ∈ allow, s.distribution = .ofText n

variable {allow : AllowList} {catalog : List Json} {n : Text}

/-! ## Names -/

theorem hasName_iff {e : Json} : hasName n e = true ↔ listedName e = .ofText n := by
  rw [hasName, decide_eq_true_iff]

theorem hasName_iff_get? {e : Json} : hasName n e = true ↔ e.get? "short_name" = some (.ofText n) := by
  rw [hasName_iff, listedName]
  cases e.get? "short_name" with
  | none => cases n <;> simp
  | some v => simp

theorem IsWellTyped.isNameable {e : Json} (h : IsWellTyped e) : IsNameable e := exists_name_iff.1 ⟨_, h.name_eq⟩

/-- The absent names of well-typed entries are the allowed ones that no entry has. -/
theorem exists_missing_of_isWellTyped (allow : AllowList) (ht : ∀ e ∈ catalog, IsWellTyped e) :
    ∃ absent, missing allow catalog = .ok absent ∧
      ∀ n, n ∈ absent ↔ n ∈ allow ∧ ¬ ∃ e ∈ catalog, hasName n e = true := by
  obtain ⟨absent, hm, -, hmem⟩ := exists_missing_of_isNameable allow fun e he ↦ (ht e he).isNameable
  refine ⟨absent, hm, fun n ↦ ?_⟩
  simp only [hmem, hasName_iff_get?, not_exists, not_and, Ne]

/-! ## Warnings -/

/-- The warning tells the name. -/
theorem bareWarning_inj {m n : Text} : bareWarning m = bareWarning n ↔ m = n := by
  rw [bareWarning, bareWarning, Event.log.injEq, and_iff_right rfl]
  exact Text.concat_between_inj

/-- An entry brings the warning about an allowed name if it lists that name without a version. -/
theorem notice?_eq_bareWarning_iff (hn : n ∈ allow) {e : Json} :
    notice? allow e = some (bareWarning n) ↔ hasName n e = true ∧ listedVersions e = [] := by
  rw [notice?, hasName_iff]
  by_cases ha : admits allow (listedName e) = true
  · obtain ⟨m, -, hm⟩ := admits_iff.1 ha
    rw [if_pos ha, hm, Json.ofText_inj, Json.display_ofText, ← List.isEmpty_iff]
    by_cases he : (listedVersions e).isEmpty = true
    · rw [if_pos he]
      change some (bareWarning m) = some (bareWarning n) ↔ _
      rw [Option.some.injEq, bareWarning_inj]
      exact ⟨fun h ↦ ⟨h, he⟩, fun h ↦ h.1⟩
    · rw [if_neg he]
      constructor
      · intro h
        cases h
      · rintro ⟨-, h⟩
        exact absurd h he
  · rw [if_neg ha]
    constructor
    · intro h
      rw [Option.some.injEq, bareWarning, Event.log.injEq] at h
      cases h.1
    · rintro ⟨h, -⟩
      exact absurd (admits_iff.2 ⟨n, hn, h⟩) ha

/-- There is one warning about an allowed name for each entry that lists it without a version. -/
theorem count_bareWarning (hn : n ∈ allow) (catalog : List Json) :
    (catalog.filterMap (notice? allow)).count (bareWarning n) =
      catalog.countP fun e ↦ hasName n e && (listedVersions e).isEmpty := by
  induction catalog with
  | nil => rfl
  | cons e es ih =>
    have he : notice? allow e = some (bareWarning n) ↔ (hasName n e && (listedVersions e).isEmpty) = true := by
      rw [notice?_eq_bareWarning_iff hn, Bool.and_eq_true, List.isEmpty_iff]
    rw [List.filterMap_cons, List.countP_cons]
    cases hw : notice? allow e with
    | none =>
      rw [if_neg fun h ↦ ?_, ih, Nat.add_zero]
      rw [he.2 h] at hw
      cases hw
    | some w =>
      rw [List.count_cons, ih]
      congr 1
      rw [hw, Option.some.injEq] at he
      by_cases h : w = bareWarning n
      · rw [if_pos (beq_iff_eq.2 h), if_pos (he.1 h)]
      · rw [if_neg fun hb ↦ h (beq_iff_eq.1 hb), if_neg fun hb ↦ h (he.2 hb)]

/-! ## Selections -/

/-- The verdicts on well-typed entries suit them. -/
theorem forall₂_suits_of_select {selections : List Selection} (ht : ∀ e ∈ catalog, IsWellTyped e)
    (hs : (select allow catalog).selections = .ok selections) :
    List.Forall₂ (fun e v ↦ Verdict.Suits allow e v) catalog (select allow catalog).verdicts := by
  have hj := forall₂_judge_of_review (fault?_eq_none_of_selections hs).1
  refine ((List.forall₂_and_left _ _).2 ⟨ht, hj⟩).imp ?_
  rintro e v ⟨he, hv⟩
  exact suits_of_judge he hv

/-- The selected names are those of the entries that are wanted. -/
theorem mem_selections_iff {selections : List Selection} (ht : ∀ e ∈ catalog, IsWellTyped e)
    (hs : (select allow catalog).selections = .ok selections) (v : Json) :
    (∃ s ∈ selections, s.distribution = v) ↔ ∃ e ∈ catalog, isWanted allow e = true ∧ listedName e = v := by
  obtain ⟨-, rfl⟩ := fault?_eq_none_of_selections hs
  have hsel := (forall₂_selections (forall₂_suits_of_select ht hs)).imp fun _ _ h ↦ h.1
  have hmap := List.forall₂_eq_eq_eq ▸ List.forall₂_map_left_iff.2 (List.forall₂_map_right_iff.2 hsel)
  rw [← List.mem_map, hmap, List.mem_map]
  simp only [List.mem_filter, and_assoc]

theorem isWanted_iff {e : Json} (hn : n ∈ allow) (he : hasName n e = true) :
    isWanted allow e = true ↔ listedVersions e ≠ [] := by
  have ha : admits allow (listedName e) = true := admits_iff.2 ⟨n, hn, hasName_iff.1 he⟩
  rw [isWanted, ha, Bool.true_and, Bool.not_eq_true', List.isEmpty_eq_false_iff]

/-! ## Fates -/

/-- The warnings add nothing to what the entries say: an allowed name is bare if it is listed without a version. -/
theorem Fate.befalls_bare_iff {absent : List Text} {selections : List Selection} (hn : n ∈ allow) :
    Fate.bare.Befalls allow catalog absent selections (catalog.filterMap (notice? allow)) n ↔
      (∃ e ∈ catalog, hasName n e = true) ∧ ∀ e ∈ catalog, hasName n e = true → listedVersions e = [] := by
  constructor
  · rintro ⟨hlisted, hnone, -⟩
    exact ⟨hlisted, fun e he hname ↦ (hnone e he hname).1⟩
  · rintro ⟨hlisted, hnone⟩
    refine ⟨hlisted, fun e he hname ↦ ⟨hnone e he hname, ?_⟩, ?_⟩
    · exact (notice?_eq_bareWarning_iff hn).2 ⟨hname, hnone e he hname⟩
    · rw [count_bareWarning hn]
      apply List.countP_congr
      intro e he
      rw [Bool.and_eq_true, List.isEmpty_iff]
      exact ⟨fun h ↦ h.1, fun h ↦ ⟨h, hnone e he h⟩⟩

/-- An allowed name has one fate if the absent names and the selections are told by the entries. -/
theorem existsUnique_befalls {absent : List Text} {selections : List Selection} (hn : n ∈ allow)
    (habsent : n ∈ absent ↔ ¬ ∃ e ∈ catalog, hasName n e = true)
    (hselected : (∃ s ∈ selections, s.distribution = .ofText n) ↔
      ∃ e ∈ catalog, hasName n e = true ∧ listedVersions e ≠ []) :
    ∃! fate : Fate, fate.Befalls allow catalog absent selections (catalog.filterMap (notice? allow)) n := by
  have hbare : Fate.bare.Befalls allow catalog absent selections (catalog.filterMap (notice? allow)) n ↔ _ :=
    Fate.befalls_bare_iff hn
  by_cases hlisted : ∃ e ∈ catalog, hasName n e = true
  · by_cases hsome : ∃ e ∈ catalog, hasName n e = true ∧ listedVersions e ≠ []
    · refine ⟨.selected, hselected.2 hsome, ?_⟩
      rintro (_ | _ | _) h
      · exact absurd hlisted (habsent.1 h)
      · rfl
      · obtain ⟨e, he, hname, hne⟩ := hsome
        exact absurd ((hbare.1 h).2 e he hname) hne
    · refine ⟨.bare, hbare.2 ⟨hlisted, fun e he hname ↦ ?_⟩, ?_⟩
      · by_contra hne
        exact hsome ⟨e, he, hname, hne⟩
      · rintro (_ | _ | _) h
        · exact absurd hlisted (habsent.1 h)
        · exact absurd (hselected.1 h) hsome
        · rfl
  · refine ⟨.missing, habsent.2 hlisted, ?_⟩
    rintro (_ | _ | _) h
    · rfl
    · obtain ⟨e, he, hname, -⟩ := hselected.1 h
      exact absurd ⟨e, he, hname⟩ hlisted
    · exact absurd (hbare.1 h).1 hlisted

/-- On well-typed entries, every allowed name is missing, selected or without versions, and only one of these. -/
theorem exists_classifies_of_select {selections : List Selection} (ht : ∀ e ∈ catalog, IsWellTyped e)
    (hs : (select allow catalog).selections = .ok selections) :
    ∃ absent, missing allow catalog = .ok absent ∧
      Classifies allow catalog absent selections (select allow catalog).events := by
  obtain ⟨absent, hm, habsent⟩ := exists_missing_of_isWellTyped allow ht
  have hselected := mem_selections_iff ht hs
  have hevents : (select allow catalog).events = catalog.filterMap (notice? allow) :=
    events_eq_filterMap (forall₂_suits_of_select ht hs)
  refine ⟨absent, hm, ?_, fun n hn ↦ ((habsent n).1 hn).1, fun s hs ↦ ?_⟩
  · intro n hn
    rw [hevents]
    apply existsUnique_befalls hn
    · rw [habsent, and_iff_right hn]
    · rw [hselected]
      constructor
      · rintro ⟨e, he, hw, hname⟩
        have hname := hasName_iff.2 hname
        exact ⟨e, he, hname, (isWanted_iff hn hname).1 hw⟩
      · rintro ⟨e, he, hname, hne⟩
        exact ⟨e, he, (isWanted_iff hn hname).2 hne, hasName_iff.1 hname⟩
  · obtain ⟨e, -, hw, he⟩ := (hselected s.distribution).1 ⟨s, hs, rfl⟩
    rw [isWanted, Bool.and_eq_true, he] at hw
    exact admits_iff.1 hw.1

/-- One name has an entry with versions beside one without, one has only entries without, and one is not listed. -/
def sparseCatalog : List Json :=
  [.obj [("short_name", .str "k3s"), ("versions", .arr [])],
    .obj [("short_name", .str "eks"), ("versions", .arr [])],
    .obj [("short_name", .str "k3s"), ("versions", .arr [.str "1.2", .str "1.10"])],
    .obj [("short_name", .str "eks"), ("versions", .arr [])]]

theorem isWellTyped_sparseCatalog : ∀ e ∈ sparseCatalog, IsWellTyped e := by
  simp only [sparseCatalog, List.forall_mem_cons]
  refine ⟨⟨⟨_, rfl, rfl⟩, ⟨_, rfl, ?_⟩⟩, ⟨⟨_, rfl, rfl⟩, ⟨_, rfl, ?_⟩⟩, ⟨⟨_, rfl, rfl⟩, ⟨_, rfl, ?_⟩⟩,
    ⟨⟨_, rfl, rfl⟩, ⟨_, rfl, ?_⟩⟩, ?_⟩ <;> simp [Json.text?]

theorem exists_classifies_of_select_sparseCatalog :
    (∀ e ∈ sparseCatalog, IsWellTyped e) ∧
      (select (.ofList ["k3s", "eks", "gke"]) sparseCatalog).selections = .ok [⟨.str "k3s", .str "1.10"⟩] ∧
      ∃ absent, missing (.ofList ["k3s", "eks", "gke"]) sparseCatalog = .ok absent ∧
        Classifies (.ofList ["k3s", "eks", "gke"]) sparseCatalog absent [⟨.str "k3s", .str "1.10"⟩]
          [.log .warning "Distribution k3s has no versions, omitting",
            .log .warning "Distribution eks has no versions, omitting",
            .log .warning "Distribution eks has no versions, omitting"] :=
  ⟨isWellTyped_sparseCatalog, rfl, exists_classifies_of_select isWellTyped_sparseCatalog rfl⟩

end ClusterMatrix.Catalog

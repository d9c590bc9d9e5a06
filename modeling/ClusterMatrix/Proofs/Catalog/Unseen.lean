import ClusterMatrix.Proofs.Catalog.Offence
import ClusterMatrix.Proofs.Catalog.Restrict

/-!
# What a review does not see

Of an entry with a name a review sees the name alone, and the versions if the name is allowed. Entries that differ in
nothing else are judged alike. Entries whose name is not allowed can come and go anywhere in a catalog: no selection, no
fault and no warning depends on them.
-/

namespace ClusterMatrix

/-- The event is a warning in the log. -/
def Event.isWarning : Event → Bool
  | .log .warning _ => true
  | _ => false

namespace Catalog

variable {allow : AllowList} {wanted : Json → Bool} {e e' : Json} {es es' : List Json}

/-! ## Edits of a catalog -/

/-- An object whose name can be looked up and is not allowed. -/
def IsUnlisted (allow : AllowList) (e : Json) : Prop :=
  ∃ n, e.get? "short_name" = some n ∧ isName n = true ∧ admits allow n = false

/-- Two entries that a review cannot tell apart. Either they are the same, or both are objects with one name: if the
name is not allowed, all else may differ, and in any case all else but the versions. -/
inductive SeenAlike (allow : AllowList) : Json → Json → Prop where
  | same (e : Json) : SeenAlike allow e e
  | unlisted {e e' n : Json} (hn : e.get? "short_name" = some n) (hn' : e'.get? "short_name" = some n)
      (hi : isName n = true) (ha : admits allow n = false) : SeenAlike allow e e'
  | versions {e e' n : Json} (hn : e.get? "short_name" = some n) (hn' : e'.get? "short_name" = some n)
      (hi : isName n = true) (hv : e.get? "versions" = e'.get? "versions") : SeenAlike allow e e'

/-- One catalog comes from the other by edits of what a review cannot see, and by objects that are put in or taken out
though their names are not allowed. -/
inductive Edited (allow : AllowList) : List Json → List Json → Prop where
  | nil : Edited allow [] []
  | cons {e e' : Json} {es es' : List Json} (h : SeenAlike allow e e') (ht : Edited allow es es') :
      Edited allow (e :: es) (e' :: es')
  | insert {e : Json} {es es' : List Json} (h : IsUnlisted allow e) (ht : Edited allow es es') :
      Edited allow es (e :: es')
  | delete {e : Json} {es es' : List Json} (h : IsUnlisted allow e) (ht : Edited allow es es') :
      Edited allow (e :: es) es'

/-! ## Judgements -/

theorem judge_of_isUnlisted (h : IsUnlisted allow e) : ∃ n, judge (admits allow) e = .ok (.skipped n) := by
  obtain ⟨n, hn, hi, ha⟩ := h
  exact ⟨n, judge_of_not_wanted (name_eq_ok_iff.2 ⟨hn, hi⟩) ha⟩

/-- The versions of an entry with a name are looked up as the field of an object. -/
theorem versions_congr {n n' : Json} (hn : e.get? "short_name" = some n) (hn' : e'.get? "short_name" = some n')
    (hv : e.get? "versions" = e'.get? "versions") : versions e = versions e' := by
  cases h : e.get? "versions" with
  | none =>
    rw [(versions_eq_error_iff hn).2 ⟨h, rfl⟩, (versions_eq_error_iff hn').2 ⟨hv ▸ h, rfl⟩]
  | some held =>
    rw [versions, versions, field_of_get? h, field_of_get? (hv ▸ h)]

/-- What a review cannot tell apart it judges alike. -/
theorem judge_eq_of_seenAlike (h : SeenAlike allow e e') : judge (admits allow) e = judge (admits allow) e' := by
  cases h with
  | same => rfl
  | unlisted hn hn' hi ha =>
    rw [judge_of_not_wanted (name_eq_ok_iff.2 ⟨hn, hi⟩) ha, judge_of_not_wanted (name_eq_ok_iff.2 ⟨hn', hi⟩) ha]
  | versions hn hn' hi hv =>
    rw [judge, judge, name_eq_ok_iff.2 ⟨hn, hi⟩, name_eq_ok_iff.2 ⟨hn', hi⟩, versions_congr hn hn' hv]

/-! ## Reviews -/

/-- Without insertions and deletions the verdicts are the same ones. -/
theorem select_eq_of_forall₂ (h : List.Forall₂ (SeenAlike allow) es es') : select allow es = select allow es' := by
  induction h with
  | nil => rfl
  | cons h _ ih =>
    rw [select, select] at ih ⊢
    rw [review, review, judge_eq_of_seenAlike h, ih]

/-- A review without the verdicts that skip an entry. -/
def Review.unskipped (r : Review) : Review := ⟨r.verdicts.filter fun v ↦ !v.isSkipped, r.fault?⟩

def Review.warnings (r : Review) : List Event := r.events.filter Event.isWarning

theorem Review.selections_unskipped (r : Review) : r.unskipped.selections = r.selections := by
  rw [Review.selections, Review.selections, unskipped, filterMap_selection?_filter]

/-- A verdict that skips an entry brings no warning. -/
theorem Review.warnings_unskipped (r : Review) : r.unskipped.warnings = r.warnings := by
  rw [warnings, warnings, Review.events, Review.events, unskipped, List.filter_filterMap, List.filter_filterMap,
    List.filterMap_filter]
  congr 1
  funext v
  cases v <;> rfl

theorem unskipped_cons_of_skipped {n : Json} (h : judge wanted e = .ok (.skipped n)) (es : List Json) :
    (review wanted (e :: es)).unskipped = (review wanted es).unskipped := by
  rw [review_cons_of_ok h]
  rfl

/-- A verdict in front of two reviews does not tell them apart. -/
theorem unskipped_cons_congr (h : judge wanted e = judge wanted e')
    (ht : (review wanted es).unskipped = (review wanted es').unskipped) :
    (review wanted (e :: es)).unskipped = (review wanted (e' :: es')).unskipped := by
  obtain ⟨hv, hf⟩ := Review.mk.inj ht
  cases hj : judge wanted e with
  | error f => rw [review_cons_of_error hj, review_cons_of_error (h ▸ hj)]
  | ok v =>
    rw [review_cons_of_ok hj, review_cons_of_ok (h ▸ hj), Review.unskipped, Review.unskipped, hf, List.filter_cons,
      List.filter_cons, hv]

/-- The two reviews go in step but for the entries that are put in or taken out, which they skip. -/
theorem unskipped_eq_of_edited (h : Edited allow es es') :
    (select allow es).unskipped = (select allow es').unskipped := by
  induction h with
  | nil => rfl
  | cons h _ ih => exact unskipped_cons_congr (judge_eq_of_seenAlike h) ih
  | insert h _ ih =>
    obtain ⟨n, hn⟩ := judge_of_isUnlisted h
    exact ih.trans (unskipped_cons_of_skipped hn _).symm
  | delete h _ ih =>
    obtain ⟨n, hn⟩ := judge_of_isUnlisted h
    exact (unskipped_cons_of_skipped hn _).trans ih

/-- Two catalogs come to the same selections or the same fault, and to the same warnings. All events are the same if
the entries stand side by side and a review cannot tell those apart that do. -/
structure ReviewedAlike (allow : AllowList) (es es' : List Json) : Prop where
  selections : (select allow es).selections = (select allow es').selections
  warnings : (select allow es).warnings = (select allow es').warnings
  events : List.Forall₂ (SeenAlike allow) es es' → (select allow es).events = (select allow es').events

/-- Edits of what a review cannot see change nothing that it comes to. -/
theorem reviewedAlike_of_edited (h : Edited allow es es') : ReviewedAlike allow es es' := by
  have hu := unskipped_eq_of_edited h
  refine ⟨?_, ?_, fun hs ↦ ?_⟩
  · rw [← Review.selections_unskipped, hu, Review.selections_unskipped]
  · rw [← Review.warnings_unskipped, hu, Review.warnings_unskipped]
  · rw [select_eq_of_forall₂ hs]

/-- An allowed name with versions and without any, and a name that is not allowed. -/
def plainCatalog : List Json :=
  [.obj [("short_name", .str "k3s"), ("versions", .arr [.str "1.9", .str "v1.10"])],
    .obj [("short_name", .str "eks"), ("versions", .arr [.str "1.28"])],
    .obj [("short_name", .str "k3s"), ("versions", .arr [])]]

/-- The same catalog, with versions that cannot be told, without versions, and with further fields and entries. -/
def disguisedCatalog : List Json :=
  [.obj [("short_name", .null)],
    .obj [("nodes_max", .int 3), ("versions", .arr [.str "1.9", .str "v1.10"]), ("short_name", .str "k3s")],
    .obj [("versions", .arr [.str "?", .null]), ("short_name", .str "eks")],
    .obj [("short_name", .str "gke"), ("versions", .int 0)],
    .obj [("short_name", .str "k3s"), ("versions", .arr [])]]

theorem edited_disguisedCatalog : Edited (.ofList ["k3s"]) plainCatalog disguisedCatalog :=
  .insert ⟨_, rfl, rfl, rfl⟩ <| .cons (.versions rfl rfl rfl rfl) <| .cons (.unlisted rfl rfl rfl rfl) <|
    .insert ⟨_, rfl, rfl, rfl⟩ <| .cons (.same _) .nil

theorem reviewedAlike_disguisedCatalog :
    Edited (.ofList ["k3s"]) plainCatalog disguisedCatalog ∧
      (select (.ofList ["k3s"]) plainCatalog).selections = .ok [⟨.str "k3s", .str "v1.10"⟩] ∧
      ReviewedAlike (.ofList ["k3s"]) plainCatalog disguisedCatalog :=
  ⟨edited_disguisedCatalog, rfl, reviewedAlike_of_edited edited_disguisedCatalog⟩

end Catalog

end ClusterMatrix

import ClusterMatrix.Proofs.Catalog.Latest
import ClusterMatrix.Proofs.Catalog.Selection
import ClusterMatrix.Proofs.Json.Readable

/-!
# Where selections come from

A review makes nothing up: the distribution of a selection is the name of an entry, and its version is among the items
that the versions of this entry hold. What holds of a catalog through and through so holds of its selections.
-/

namespace ClusterMatrix.Catalog

variable {wanted : Json → Bool} {es : List Json}

theorem mem_of_latest? {vs : List Json} {best : Json} (h : latest? vs = .ok (some best)) : best ∈ vs := by
  have hsub : ∀ v ∈ vs.dropWhile Json.isNull, v ∈ vs := (List.dropWhile_suffix _).subset
  unfold latest? at h
  split at h
  · cases h
  · rename_i v hd
    cases h
    exact hsub best (hd ▸ List.mem_cons_self)
  · rename_i v ws hne hd
    cases hv : spelled v with
    | error f =>
      rw [hv] at h
      cases h
    | ok w =>
      simp only [hv] at h
      cases hl : latestFrom v w ws with
      | error f =>
        rw [hl] at h
        cases h
      | ok r =>
        rw [hl] at h
        cases h
        exact hsub best (hd ▸ (isLatest_of_latestFrom hv hl).mem)

/-- The entry names the distribution, and the version is one of the items that its versions hold. -/
structure Lists (e : Json) (s : Selection) : Prop where
  name : name e = .ok s.distribution
  version : ∃ held vs, versions e = .ok held ∧ items held = .ok vs ∧ s.version ∈ vs

theorem lists_of_judge {e : Json} {s : Selection} (h : judge wanted e = .ok (.selected s)) : Lists e s := by
  unfold judge at h
  split at h
  · cases h
  · rename_i n hn
    split at h
    · split at h
      · cases h
      · rename_i held hheld
        split at h
        · cases h
        · rename_i vs hvs
          split at h
          · cases h
          · cases h
          · rename_i v hv
            cases h
            exact ⟨hn, held, vs, hheld, hvs, mem_of_latest? hv⟩
    · cases h

/-- Each selection of a review comes from an entry. -/
theorem exists_lists_of_mem_selections {selections : List Selection}
    (h : (review wanted es).selections = .ok selections) : ∀ s ∈ selections, ∃ e ∈ es, Lists e s := by
  obtain ⟨hf, rfl⟩ := fault?_eq_none_of_selections h
  intro s hs
  obtain ⟨v, hv, hs⟩ := List.mem_filterMap.1 hs
  obtain ⟨e, he, hj⟩ := exists_mem_of_forall₂ (forall₂_judge_of_review hf).flip v hv
  cases v with
  | selected s' =>
    cases hs
    exact ⟨e, he, lists_of_judge hj⟩
  | _ => cases hs

/-! ## What selections are made of -/

section Each

variable {p : Json → Prop} {e v : Json}

theorem Selection.each_toJson_iff {s : Selection} :
    s.toJson.Each p ↔ p s.toJson ∧ s.distribution.Each p ∧ s.version.Each p := by
  simp [toJson]

theorem each_of_field {k : String} (he : e.Each p) (h : field k e = .ok v) : v.Each p := by
  cases e with
  | obj ms =>
    rw [field] at h
    split at h
    · rename_i w hw
      cases h
      obtain ⟨front, back, rfl, -⟩ := List.lookup_eq_some_iff.1 hw
      exact he.member (List.mem_append_right front List.mem_cons_self)
    · cases h
  | _ => cases h

/-- What is no array holds texts. -/
theorem exists_ofText_of_items {vs : List Json} (ha : ∀ ws, e ≠ .arr ws) (h : items e = .ok vs) :
    ∀ v ∈ vs, ∃ x, v = .ofText x := by
  cases e with
  | arr ws => exact absurd rfl (ha ws)
  | str s =>
    cases h
    rw [List.forall_mem_map]
    exact fun c _ ↦ ⟨.whole (String.ofList [c]), rfl⟩
  | ragged r =>
    cases h
    rw [List.forall_mem_map]
    exact fun n _ ↦ ⟨.ofCodes [n], rfl⟩
  | obj ms =>
    cases h
    rw [List.forall_mem_map]
    exact fun m _ ↦ ⟨m.1, rfl⟩
  | _ => cases h

/-- Items are parts of the value, or texts. -/
theorem each_of_items {vs : List Json} (ht : ∀ x, p (.ofText x)) (he : e.Each p) (h : items e = .ok vs) :
    ∀ v ∈ vs, v.Each p := by
  by_cases ha : ∃ ws, e = .arr ws
  · obtain ⟨ws, rfl⟩ := ha
    cases h
    exact fun v hv ↦ he.item hv
  · rw [not_exists] at ha
    intro v hv
    obtain ⟨x, rfl⟩ := exists_ofText_of_items ha h v hv
    exact .ofText (ht x)

theorem each_of_lists {s : Selection} (ht : ∀ x, p (.ofText x)) (he : e.Each p) (h : Lists e s) :
    s.distribution.Each p ∧ s.version.Each p := by
  obtain ⟨hn, held, vs, hheld, hvs, hm⟩ := h
  refine ⟨?_, each_of_items ht (each_of_field he hheld) hvs _ hm⟩
  rw [name] at hn
  split at hn
  · rename_i n hfield
    split at hn
    · cases hn
      exact each_of_field he hfield
    · cases hn
  · cases hn

/-- What holds of texts, of arrays and of objects with the keys of a selection, and of a catalog through and through,
holds of the selections of the catalog. -/
theorem each_selections {selections : List Selection} (ht : ∀ x, p (.ofText x)) (harr : ∀ vs, p (.arr vs))
    (hobj : ∀ s : Selection, p s.toJson) (he : ∀ e ∈ es, e.Each p)
    (h : (review wanted es).selections = .ok selections) :
    (Json.arr (selections.map Selection.toJson)).Each p := by
  apply Json.Each.arr (harr _)
  rw [List.forall_mem_map]
  intro s hs
  obtain ⟨e, hm, hl⟩ := exists_lists_of_mem_selections h s hs
  obtain ⟨hd, hv⟩ := each_of_lists ht (he e hm) hl
  exact Selection.each_toJson_iff.2 ⟨hobj s, hd, hv⟩

end Each

variable {selections : List Selection}

theorem isFloatFree_ofText (x : Text) : (Json.ofText x).IsFloatFree := by cases x <;> trivial

theorem isFloatFree_selections (hf : ∀ e ∈ es, e.Each Json.IsFloatFree)
    (h : (review wanted es).selections = .ok selections) :
    (Json.arr (selections.map Selection.toJson)).Each Json.IsFloatFree :=
  each_selections isFloatFree_ofText (fun _ ↦ trivial) (fun _ ↦ trivial) hf h

/-- The two keys of a selection differ. -/
theorem Selection.isReadable_toJson (s : Selection) : Json.IsReadable s.toJson := by
  change [Text.whole "distribution", Text.whole "version"].Nodup
  decide

theorem isReadable_ofText (x : Text) : (Json.ofText x).IsReadable := by cases x <;> trivial

/-- The selections of a catalog that can be read again can be so too. -/
theorem isReadable_selections (hr : ∀ e ∈ es, e.Each Json.IsReadable)
    (h : (review wanted es).selections = .ok selections) :
    (Json.arr (selections.map Selection.toJson)).Each Json.IsReadable :=
  each_selections isReadable_ofText (fun _ ↦ trivial) Selection.isReadable_toJson hr h

end ClusterMatrix.Catalog

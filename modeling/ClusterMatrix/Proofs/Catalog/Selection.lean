import Mathlib.Data.List.Forall2
import ClusterMatrix.Catalog.Selection
import ClusterMatrix.Proofs.Catalog.Latest

/-!
# What a review selects

A review that comes to its end has one verdict for each entry, in the order of the catalog. On an entry that
holds what its fields are meant to hold, the verdict is the one that its name and its versions call for: so the
selections are those of the wanted entries, the events those of all others, and no entry is lost or counted twice.
-/

namespace ClusterMatrix.Catalog

/-- The name that an entry lists. -/
def listedName (entry : Json) : Json := (entry.get? "short_name").getD .null

/-- The versions that an entry lists. -/
def listedVersions (entry : Json) : List Json :=
  match entry.get? "versions" with
  | some (.arr vs) => vs
  | _ => []

/-- An entry whose name is a text and whose versions are an array of texts; it may have other fields. -/
structure IsWellTyped (entry : Json) : Prop where
  name : ∃ n, entry.get? "short_name" = some n ∧ n.text?.isSome = true
  versions : ∃ vs, entry.get? "versions" = some (.arr vs) ∧ ∀ v ∈ vs, v.text?.isSome = true

/-- An entry is wanted if its name is allowed and it lists a version. -/
def isWanted (allow : AllowList) (entry : Json) : Bool :=
  admits allow (listedName entry) && !(listedVersions entry).isEmpty

/-- The event that tells why an entry is passed over. -/
def notice? (allow : AllowList) (entry : Json) : Option Event :=
  if admits allow (listedName entry) then
    if (listedVersions entry).isEmpty then
      some (.log .warning (.concat ["Distribution ", (listedName entry).display, " has no versions, omitting"]))
    else none
  else some (.log .debug (.concat ["Skipping distribution ", (listedName entry).display]))

/-- The selections and the events account for a catalog: the selections are those of the wanted entries, each with
a version of its own entry that is the latest one there, and each other entry gives its notice. -/
structure Accounts (allow : AllowList) (catalog : List Json) (selections : List Selection)
    (events : List Event) : Prop where
  distributions : selections.map Selection.distribution = (catalog.filter (isWanted allow)).map listedName
  versions : List.Forall₂
    (fun s e ↦ s.version ∈ listedVersions e ∧
      (2 ≤ (listedVersions e).length → IsLatest s.version (listedVersions e)))
    selections (catalog.filter (isWanted allow))
  notices : events = catalog.filterMap (notice? allow)
  notice_or_wanted : ∀ e ∈ catalog, notice? allow e = none ↔ isWanted allow e = true
  length_eq : selections.length + events.length = catalog.length

/-! ## Entries that hold what they are meant to hold -/

theorem isName_of_text {v : Json} (h : v.text?.isSome = true) : isName v = true := by
  cases v <;> first | rfl | exact absurd h Bool.false_ne_true

theorem isNull_of_text {v : Json} (h : v.text?.isSome = true) : v.isNull = false := by
  cases v <;> first | rfl | exact absurd h Bool.false_ne_true

/-- Only texts are on an allow list. -/
theorem admits_iff {allow : AllowList} {v : Json} : admits allow v = true ↔ ∃ n ∈ allow, v = .ofText n := by
  simp only [admits, Option.any_eq_true, decide_eq_true_iff, Json.toText?_eq_some_iff]
  exact exists_congr fun n ↦ and_comm

theorem field_of_get? {k : String} {e v : Json} (h : e.get? k = some v) : field k e = .ok v := by
  cases e with
  | obj ms =>
    change ms.lookup (.whole k) = some v at h
    rw [field, h]
  | _ => cases h

theorem get?_of_field {k : String} {e v : Json} (h : field k e = .ok v) : e.get? k = some v := by
  cases e with
  | obj ms =>
    rw [field] at h
    split at h
    · rename_i hv
      cases h
      exact hv
    · cases h
  | _ => cases h

theorem IsWellTyped.name_eq {e : Json} (h : IsWellTyped e) : Catalog.name e = .ok (listedName e) := by
  obtain ⟨n, hn, ht⟩ := h.name
  rw [Catalog.name, field_of_get? hn, listedName, hn]
  exact if_pos (isName_of_text ht)

theorem IsWellTyped.versions_eq {e : Json} (h : IsWellTyped e) :
    Catalog.versions e = .ok (.arr (listedVersions e)) := by
  obtain ⟨vs, hvs, -⟩ := h.versions
  rw [Catalog.versions, field_of_get? hvs, listedVersions, hvs]

theorem IsWellTyped.isNull_eq_false {e : Json} (h : IsWellTyped e) :
    ∀ v ∈ listedVersions e, v.isNull = false := by
  obtain ⟨vs, hvs, ht⟩ := h.versions
  rw [listedVersions, hvs]
  exact fun v hv ↦ isNull_of_text (ht v hv)

/-! ## Verdicts -/

/-- The verdict is the one that an entry calls for. -/
def Verdict.Suits (allow : AllowList) (e : Json) : Verdict → Prop
  | .skipped n => n = listedName e ∧ admits allow n = false
  | .bare n => n = listedName e ∧ admits allow n = true ∧ listedVersions e = []
  | .selected s => s.distribution = listedName e ∧ admits allow s.distribution = true ∧
      s.version ∈ listedVersions e ∧ (2 ≤ (listedVersions e).length → IsLatest s.version (listedVersions e))

/-- A verdict on a well-typed entry suits it. -/
theorem suits_of_judge {allow : AllowList} {e : Json} {v : Verdict} (ht : IsWellTyped e)
    (h : judge (admits allow) e = .ok v) : v.Suits allow e := by
  simp only [judge, ht.name_eq, ht.versions_eq, items] at h
  by_cases ha : admits allow (listedName e) = true
  · rw [if_pos ha] at h
    cases hl : latest? (listedVersions e) with
    | error f =>
      rw [hl] at h
      cases h
    | ok o =>
      simp only [hl] at h
      rcases latest?_eq_ok ht.isNull_eq_false hl with ⟨rfl, hnil⟩ | ⟨best, rfl, hm, hmax⟩
      · obtain rfl := Except.ok.inj h
        exact ⟨rfl, ha, hnil⟩
      · obtain rfl := Except.ok.inj h
        exact ⟨rfl, ha, hm, hmax⟩
  · rw [if_neg ha] at h
    obtain rfl := Except.ok.inj h
    exact ⟨rfl, Bool.eq_false_iff.2 ha⟩

/-- A verdict that suits an entry brings the notice of the entry. -/
theorem Verdict.Suits.event?_eq {allow : AllowList} {e : Json} {v : Verdict} (h : v.Suits allow e) :
    v.event? = notice? allow e := by
  cases v with
  | skipped n =>
    obtain ⟨rfl, ha⟩ := h
    rw [notice?, if_neg (by rw [ha]; exact Bool.false_ne_true), Verdict.event?]
  | bare n =>
    obtain ⟨rfl, ha, hnil⟩ := h
    rw [notice?, if_pos ha, hnil, if_pos List.isEmpty_nil, Verdict.event?]
  | selected s =>
    obtain ⟨hd, ha, hm, -⟩ := h
    have hne : ¬(listedVersions e).isEmpty = true := by
      rw [List.isEmpty_iff]
      exact List.ne_nil_of_mem hm
    rw [notice?, ← hd, if_pos ha, if_neg hne, Verdict.event?]

theorem notice?_eq_none_iff (allow : AllowList) (e : Json) :
    notice? allow e = none ↔ isWanted allow e = true := by
  rw [notice?, isWanted]
  cases admits allow (listedName e) <;> cases (listedVersions e).isEmpty <;> simp

theorem Verdict.event?_eq_none_iff (v : Verdict) : v.event? = none ↔ ∃ s, v = .selected s := by
  cases v with
  | selected s => exact ⟨fun _ ↦ ⟨s, rfl⟩, fun _ ↦ rfl⟩
  | _ =>
    constructor
    · rintro ⟨⟩
    · rintro ⟨s, ⟨⟩⟩

/-- Each verdict brings a selection or an event, and not both. -/
theorem length_selections_add_events (vs : List Verdict) :
    (vs.filterMap Verdict.selection?).length + (vs.filterMap Verdict.event?).length = vs.length := by
  induction vs with
  | nil => rfl
  | cons v vs ih =>
    rw [List.filterMap_cons, List.filterMap_cons]
    cases v <;> simp only [Verdict.selection?, Verdict.event?, List.length_cons] <;> omega

/-! ## Reviews -/

section

variable {wanted : Json → Bool} {e n : Json} {f : Fault} {v : Verdict}

theorem judge_of_not_wanted (hn : Catalog.name e = .ok n) (hw : wanted n = false) :
    judge wanted e = .ok (.skipped n) := by
  rw [judge, hn]
  dsimp only
  rw [hw, if_neg Bool.false_ne_true]

theorem review_cons_of_ok (h : judge wanted e = .ok v) (es : List Json) :
    review wanted (e :: es) = ⟨v :: (review wanted es).verdicts, (review wanted es).fault?⟩ := by
  rw [review, h]

theorem review_cons_of_error (h : judge wanted e = .error f) (es : List Json) :
    review wanted (e :: es) = ⟨[], some f⟩ := by
  rw [review, h]

end

/-- A review without a fault has a verdict for each entry, in order. -/
theorem forall₂_judge_of_review {wanted : Json → Bool} {es : List Json} (h : (review wanted es).fault? = none) :
    List.Forall₂ (fun e v ↦ judge wanted e = .ok v) es (review wanted es).verdicts := by
  induction es with
  | nil => exact .nil
  | cons e es ih =>
    cases hj : judge wanted e with
    | error f =>
      rw [review_cons_of_error hj] at h
      cases h
    | ok v =>
      rw [review_cons_of_ok hj] at h ⊢
      exact .cons hj (ih h)

/-- What stands on one side of a pairing has a counterpart on the other. -/
theorem exists_mem_of_forall₂ {A B : Type} {r : A → B → Prop} {as : List A} {bs : List B}
    (h : List.Forall₂ r as bs) : ∀ a ∈ as, ∃ b ∈ bs, r a b := by
  induction h with
  | nil => exact fun a ha ↦ absurd ha List.not_mem_nil
  | @cons a b as bs hr _ ih =>
    rw [List.forall_mem_cons]
    refine ⟨⟨b, List.mem_cons_self, hr⟩, fun a' ha ↦ ?_⟩
    obtain ⟨b', hb, hr⟩ := ih a' ha
    exact ⟨b', List.mem_cons_of_mem b hb, hr⟩

theorem fault?_eq_none_of_selections {r : Review} {S : List Selection} (h : r.selections = .ok S) :
    r.fault? = none ∧ S = r.verdicts.filterMap Verdict.selection? := by
  rw [Review.selections] at h
  cases hf : r.fault? with
  | some f =>
    rw [hf] at h
    cases h
  | none =>
    rw [hf] at h
    exact ⟨rfl, (Except.ok.inj h).symm⟩

/-- The selections among verdicts that suit their entries are those of the wanted entries. -/
theorem forall₂_selections {allow : AllowList} {es : List Json} {vs : List Verdict}
    (h : List.Forall₂ (fun e v ↦ Verdict.Suits allow e v) es vs) :
    List.Forall₂
      (fun s e ↦ s.distribution = listedName e ∧ s.version ∈ listedVersions e ∧
        (2 ≤ (listedVersions e).length → IsLatest s.version (listedVersions e)))
      (vs.filterMap Verdict.selection?) (es.filter (isWanted allow)) := by
  induction h with
  | nil => exact .nil
  | @cons e v es vs hv _ ih =>
    have hw := (notice?_eq_none_iff allow e).symm.trans (hv.event?_eq ▸ v.event?_eq_none_iff)
    cases v with
    | selected s =>
      obtain ⟨hd, -, hm, hmax⟩ := hv
      rw [List.filter_cons_of_pos (hw.2 ⟨s, rfl⟩), List.filterMap_cons]
      exact .cons ⟨hd, hm, hmax⟩ ih
    | _ =>
      rw [List.filter_cons_of_neg (fun hp ↦ nomatch hw.1 hp), List.filterMap_cons]
      exact ih

theorem events_eq_filterMap {allow : AllowList} {es : List Json} {vs : List Verdict}
    (h : List.Forall₂ (fun e v ↦ Verdict.Suits allow e v) es vs) :
    vs.filterMap Verdict.event? = es.filterMap (notice? allow) := by
  induction h with
  | nil => rfl
  | cons hv _ ih => rw [List.filterMap_cons, List.filterMap_cons, hv.event?_eq, ih]

/-- A review of well-typed entries that comes to selections accounts for each entry once and in order. -/
theorem accounts_of_select {allow : AllowList} {catalog : List Json} {selections : List Selection}
    (ht : ∀ e ∈ catalog, IsWellTyped e) (hs : (select allow catalog).selections = .ok selections) :
    Accounts allow catalog selections (select allow catalog).events := by
  obtain ⟨hf, rfl⟩ := fault?_eq_none_of_selections hs
  have hj := forall₂_judge_of_review hf
  have hv : List.Forall₂ (fun e v ↦ Verdict.Suits allow e v) catalog (select allow catalog).verdicts := by
    refine ((List.forall₂_and_left _ _).2 ⟨ht, hj⟩).imp ?_
    rintro e v ⟨he, hv⟩
    exact suits_of_judge he hv
  have hsel := forall₂_selections hv
  refine ⟨?_, hsel.imp fun _ _ h ↦ h.2, events_eq_filterMap hv, fun e _ ↦ notice?_eq_none_iff allow e, ?_⟩
  · rw [← List.forall₂_eq_eq_eq, List.forall₂_map_left_iff, List.forall₂_map_right_iff]
    exact hsel.imp fun _ _ h ↦ h.1
  · rw [Review.events, length_selections_add_events]
    exact hj.length_eq.symm

/-- A name that comes twice, an entry without versions, and one that is not allowed. -/
def mixedCatalog : List Json :=
  [.obj [("short_name", .str "k3s"), ("versions", .arr [.str "v1.23", .str "v1.25", .str "1.25.0"])],
    .obj [("versions", .arr []), ("short_name", .str "eks")],
    .obj [("short_name", .str "gke"), ("versions", .arr [.str "1.27", .str "?"]), ("nodes_max", .int 3)],
    .obj [("short_name", .str "k3s"), ("versions", .arr [.str "latest"])]]

theorem isWellTyped_mixedCatalog : ∀ e ∈ mixedCatalog, IsWellTyped e := by
  simp only [mixedCatalog, List.forall_mem_cons]
  refine ⟨⟨⟨_, rfl, rfl⟩, ⟨_, rfl, ?_⟩⟩, ⟨⟨_, rfl, rfl⟩, ⟨_, rfl, ?_⟩⟩, ⟨⟨_, rfl, rfl⟩, ⟨_, rfl, ?_⟩⟩,
    ⟨⟨_, rfl, rfl⟩, ⟨_, rfl, ?_⟩⟩, ?_⟩ <;> simp [Json.text?]

theorem accounts_of_select_mixedCatalog :
    (∀ e ∈ mixedCatalog, IsWellTyped e) ∧
      (select (.ofList ["k3s", "eks"]) mixedCatalog).selections =
        .ok [⟨.str "k3s", .str "v1.25"⟩, ⟨.str "k3s", .str "latest"⟩] ∧
      Accounts (.ofList ["k3s", "eks"]) mixedCatalog
        [⟨.str "k3s", .str "v1.25"⟩, ⟨.str "k3s", .str "latest"⟩]
        [.log .warning "Distribution eks has no versions, omitting",
          .log .debug "Skipping distribution gke"] :=
  ⟨isWellTyped_mixedCatalog, rfl, accounts_of_select isWellTyped_mixedCatalog rfl⟩

end ClusterMatrix.Catalog

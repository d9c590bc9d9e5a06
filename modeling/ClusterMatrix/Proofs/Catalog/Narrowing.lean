import ClusterMatrix.Proofs.Catalog.Offence
import ClusterMatrix.Proofs.Catalog.Provenance
import ClusterMatrix.Proofs.Catalog.Restrict

/-!
# Selections under several allow lists

Each entry of a catalog offers at most one selection, whatever is allowed. What a review selects under an allow list are
the offers of the allowed names, in the order of the catalog. So the selections under a smaller allow list are found
among those under a greater one, and those under two allow lists together make up the selections under both. A review
comes to its end under a smaller allow list if it does so under a greater one, and under two together if it does so
under each of them.
-/

namespace ClusterMatrix

namespace AllowList

instance : HasSubset AllowList := ⟨fun a b ↦ ∀ n ∈ a, n ∈ b⟩

theorem subset_iff {a b : AllowList} : a ⊆ b ↔ ∀ n ∈ a, n ∈ b := Iff.rfl

instance : Union AllowList := ⟨fun a b ↦ .ofList (a.names ++ b.names)⟩

@[simp] theorem mem_union {a b : AllowList} {n : Text} : n ∈ a ∪ b ↔ n ∈ a ∨ n ∈ b := by
  change n ∈ ofList (a.names ++ b.names) ↔ _
  rw [mem_ofList, List.mem_append, mem_iff, mem_iff]

theorem subset_union_left (a b : AllowList) : a ⊆ a ∪ b := fun _ h ↦ mem_union.2 (.inl h)

theorem subset_union_right (a b : AllowList) : b ⊆ a ∪ b := fun _ h ↦ mem_union.2 (.inr h)

end AllowList

namespace Catalog

variable {allow a b : AllowList} {e : Json} {s : Selection} {f : Fault} {catalog : List Json}
  {selections : List Selection}

/-! ## Offers -/

/-- The selection that an entry gives where its name is wanted. -/
def offer? (e : Json) : Option Selection :=
  match judge (fun _ ↦ true) e with
  | .ok v => v.selection?
  | .error _ => none

/-- What a catalog has to offer, in its order. -/
def offers (catalog : List Json) : List Selection := catalog.filterMap offer?

def Selection.isAllowed (allow : AllowList) (s : Selection) : Bool := admits allow s.distribution

theorem name_of_offer? (h : offer? e = some s) : name e = .ok s.distribution := by
  unfold offer? at h
  split at h
  · rename_i v hj
    cases v with
    | selected t =>
      obtain rfl := Option.some.inj h
      exact (lists_of_judge hj).name
    | _ => cases h
  · cases h

theorem isAllowed_of_offer? {n : Json} (h : offer? e = some s) (hn : name e = .ok n) :
    s.isAllowed allow = admits allow n := by
  have hname := name_of_offer? h
  rw [hn] at hname
  rw [Selection.isAllowed, ← Except.ok.inj hname]

/-- If its name is allowed, the verdict on an entry selects all that it offers. -/
theorem offer?_of_judge {n : Json} {v : Verdict} (h : judge (admits allow) e = .ok v) (hn : name e = .ok n)
    (ha : admits allow n = true) : offer? e = v.selection? := by
  have hall : judge (fun _ ↦ true) e = judge (admits allow) e := by
    apply judge_congr
    intro n' hn'
    rw [hn] at hn'
    rw [← Except.ok.inj hn', ha]
  rw [offer?, hall, h]

/-- A verdict selects what the entry offers, unless its name is not allowed. -/
theorem selection?_of_judge {v : Verdict} (h : judge (admits allow) e = .ok v) :
    v.selection? = (offer? e).filter (Selection.isAllowed allow) := by
  have hallowed : ∀ n, name e = .ok n → admits allow n = true →
      v.selection? = (offer? e).filter (Selection.isAllowed allow) := by
    intro n hn ha
    rw [← offer?_of_judge h hn ha]
    cases ho : offer? e with
    | none => rfl
    | some s => rw [Option.filter_some_pos (by rw [isAllowed_of_offer? ho hn, ha])]
  have hj := judged (admits allow) e
  rw [h] at hj
  cases hj with
  | @skipped n hn hw =>
    cases ho : offer? e with
    | none => rfl
    | some s =>
      rw [Option.filter_some_neg (by rw [isAllowed_of_offer? ho hn, hw])]
      rfl
  | bare hn hw _ _ _ => exact hallowed _ hn hw
  | selected hn hw _ _ _ => exact hallowed _ hn hw

/-- The verdicts on a catalog select what it offers under the allowed names. -/
theorem selections_of_verdicts {es : List Json} {vs : List Verdict}
    (h : List.Forall₂ (fun e v ↦ judge (admits allow) e = .ok v) es vs) :
    vs.filterMap Verdict.selection? = (offers es).filter (Selection.isAllowed allow) := by
  rw [offers, List.filter_filterMap]
  induction h with
  | nil => rfl
  | cons hj _ ih => rw [List.filterMap_cons, List.filterMap_cons, selection?_of_judge hj, ih]

/-! ## Success -/

/-- A review that comes to its end selects the offers of the allowed names. -/
theorem selections_eq_filter_offers (h : (select allow catalog).selections = .ok selections) :
    selections = (offers catalog).filter (Selection.isAllowed allow) := by
  obtain ⟨hf, rfl⟩ := fault?_eq_none_of_selections h
  exact selections_of_verdicts (forall₂_judge_of_review hf)

theorem selections_of_not_offends (h : ∀ e ∈ catalog, ∀ f, ¬ Offends allow e f) :
    (select allow catalog).selections = .ok ((offers catalog).filter (Selection.isAllowed allow)) := by
  obtain ⟨selections, hs⟩ := exists_selections_iff.2 h
  rw [hs, selections_eq_filter_offers hs]

/-- An entry that offends goes on doing so if more names are allowed. -/
theorem Offends.mono (hab : a ⊆ b) (h : Offends a e f) : Offends b e f := by
  rw [offends_iff] at h ⊢
  rcases h with h | ⟨⟨n, hn, he⟩, h⟩
  · exact .inl h
  · exact .inr ⟨⟨n, hab n hn, he⟩, h⟩

/-- What offends under two allow lists together offends under one of them. -/
theorem Offends.of_union (h : Offends (a ∪ b) e f) : Offends a e f ∨ Offends b e f := by
  rw [offends_iff] at h
  rcases h with h | ⟨⟨n, hn, he⟩, h⟩
  · exact .inl (offends_iff.2 (.inl h))
  · rcases AllowList.mem_union.1 hn with hn | hn
    · exact .inl (offends_iff.2 (.inr ⟨⟨n, hn, he⟩, h⟩))
    · exact .inr (offends_iff.2 (.inr ⟨⟨n, hn, he⟩, h⟩))

/-! ## Allowed selections -/

theorem isAllowed_iff : s.isAllowed allow = true ↔ ∃ n ∈ allow, s.distribution = .ofText n := admits_iff

theorem isAllowed_of_subset (hab : a ⊆ b) (h : s.isAllowed a = true) : s.isAllowed b = true := by
  obtain ⟨n, hn, hs⟩ := isAllowed_iff.1 h
  exact isAllowed_iff.2 ⟨n, hab n hn, hs⟩

theorem isAllowed_union_iff : s.isAllowed (a ∪ b) = true ↔ s.isAllowed a = true ∨ s.isAllowed b = true := by
  simp only [isAllowed_iff, AllowList.mem_union, or_and_right, exists_or]

/-- What is allowed by the smaller list is left of what is allowed by the greater one. -/
theorem filter_isAllowed_filter (hab : a ⊆ b) (ss : List Selection) :
    (ss.filter (Selection.isAllowed b)).filter (Selection.isAllowed a) = ss.filter (Selection.isAllowed a) := by
  rw [List.filter_filter]
  apply List.filter_congr
  intro s _
  rw [Bool.eq_iff_iff, Bool.and_eq_true]
  exact ⟨fun h ↦ h.1, fun h ↦ ⟨h, isAllowed_of_subset hab h⟩⟩

/-! ## Several allow lists -/

/-- How the selections of a catalog depend on the allow list. All are cut out of one list, which has the order of the
catalog. Under a smaller allow list the review comes to its end too, and of the selections those are left whose names
are. Under two allow lists together it comes to its end if it does so under each of them: each list alone leaves its own
selections of these, and there are no more than those of the first and what the second adds to them. -/
structure SelectsByName (catalog : List Json) : Prop where
  inOrder : ∀ a selections, (select a catalog).selections = .ok selections →
    selections = (offers catalog).filter (Selection.isAllowed a)
  narrows : ∀ a b selections, a ⊆ b → (select b catalog).selections = .ok selections →
    (select a catalog).selections = .ok (selections.filter (Selection.isAllowed a))
  joins : ∀ a b as bs, (select a catalog).selections = .ok as → (select b catalog).selections = .ok bs →
    ∃ both, (select (a ∪ b) catalog).selections = .ok both ∧ both.filter (Selection.isAllowed a) = as ∧
      both.filter (Selection.isAllowed b) = bs ∧ both.Perm (as ++ bs.filter fun s ↦ !s.isAllowed a)

theorem narrows_of_subset (hab : a ⊆ b) (h : (select b catalog).selections = .ok selections) :
    (select a catalog).selections = .ok (selections.filter (Selection.isAllowed a)) := by
  have hb := exists_selections_iff.1 ⟨selections, h⟩
  rw [selections_of_not_offends fun e he f hf ↦ hb e he f (hf.mono hab), selections_eq_filter_offers h,
    filter_isAllowed_filter hab]

/-- What is allowed by one of two lists is what the first allows, and what of the rest the second does. -/
theorem perm_append_filter_not {both : List Selection} (h : ∀ s ∈ both, s.isAllowed (a ∪ b) = true) :
    both.Perm (both.filter (Selection.isAllowed a) ++
      (both.filter (Selection.isAllowed b)).filter fun s ↦ !s.isAllowed a) := by
  have hrest : (both.filter (Selection.isAllowed b)).filter (fun s ↦ !s.isAllowed a) =
      both.filter fun s ↦ !s.isAllowed a := by
    rw [List.filter_filter]
    apply List.filter_congr
    intro s hs
    have hab := isAllowed_union_iff.1 (h s hs)
    cases ha : s.isAllowed a with
    | true => rfl
    | false =>
      rw [ha, or_iff_right Bool.false_ne_true] at hab
      rw [hab]
      rfl
  rw [hrest]
  exact (List.filter_append_perm _ both).symm

theorem exists_joins {as bs : List Selection} (ha : (select a catalog).selections = .ok as)
    (hb : (select b catalog).selections = .ok bs) :
    ∃ both, (select (a ∪ b) catalog).selections = .ok both ∧ both.filter (Selection.isAllowed a) = as ∧
      both.filter (Selection.isAllowed b) = bs ∧ both.Perm (as ++ bs.filter fun s ↦ !s.isAllowed a) := by
  have hna := exists_selections_iff.1 ⟨as, ha⟩
  have hnb := exists_selections_iff.1 ⟨bs, hb⟩
  have hboth := selections_of_not_offends fun e he f hf ↦ hf.of_union.elim (hna e he f) (hnb e he f)
  have hleft := narrows_of_subset (AllowList.subset_union_left a b) hboth
  have hright := narrows_of_subset (AllowList.subset_union_right a b) hboth
  rw [ha, Except.ok.injEq] at hleft
  rw [hb, Except.ok.injEq] at hright
  refine ⟨_, hboth, hleft.symm, hright.symm, ?_⟩
  rw [hleft, hright]
  exact perm_append_filter_not fun s hs ↦ (List.mem_filter.1 hs).2

/-- The allow list only cuts selections out of those that the catalog offers. -/
theorem selectsByName (catalog : List Json) : SelectsByName catalog :=
  ⟨fun _ _ h ↦ selections_eq_filter_offers h, fun _ _ _ hab h ↦ narrows_of_subset hab h,
    fun _ _ _ _ ha hb ↦ exists_joins ha hb⟩

end Catalog

end ClusterMatrix

import ClusterMatrix.Proofs.Catalog.Offence
import ClusterMatrix.Proofs.Catalog.Restrict

/-!
# Shapes of entries

A review and the search for absent names take a name from each entry, and both stop at the first entry that has none to
look up. The search looks at nothing else, so it comes to its end wherever a review does, under whatever allow lists.
Behind it a review can only stop at the versions of an allowed entry.
-/

namespace ClusterMatrix.Catalog

variable {allow a b : AllowList} {e : Json} {es catalog : List Json} {f : Fault}

/-! ## Names -/

/-- Where nothing is allowed, versions do not matter. -/
theorem offends_empty_iff : Offends .empty e f ↔ Unnamed e f := by
  rw [offends_iff, or_iff_left]
  rintro ⟨⟨n, ha, -⟩, -⟩
  exact AllowList.not_mem_empty n ha

theorem admits_empty (n : Json) : admits .empty n = false := by
  rw [Bool.eq_false_iff, Ne, admits_iff]
  rintro ⟨m, hm, -⟩
  exact AllowList.not_mem_empty m hm

theorem name_eq_error_iff : name e = .error f ↔ Unnamed e f := by
  rw [← offends_empty_iff, ← judge_eq_error_iff]
  cases hn : name e with
  | error g => rw [judge, hn, Except.error.injEq, Except.error.injEq]
  | ok n =>
    rw [judge_of_not_wanted hn (admits_empty n)]
    simp only [reduceCtorEq]

/-- The search for names goes through the entries in order, up to the first that has none. -/
theorem names_eq_error_iff : names es = .error f ↔ FirstFault Unnamed es f := by
  induction es with
  | nil => simp only [names, reduceCtorEq, not_firstFault_nil]
  | cons e es ih =>
    rw [names]
    cases hn : name e with
    | error g =>
      rw [firstFault_cons_of_error (fun _ ↦ name_eq_error_iff) hn]
      dsimp only
      rw [Except.error.injEq]
    | ok n =>
      rw [firstFault_cons_of_ok (fun _ ↦ name_eq_error_iff) hn, ← ih]
      cases names es with
      | error g => exact Iff.rfl
      | ok ns => simp only [reduceCtorEq]

/-! ## The search beside a review -/

theorem missing_eq_error_iff_firstFault : missing allow es = .error f ↔ FirstFault Unnamed es f :=
  missing_eq_error_iff.trans names_eq_error_iff

theorem exists_missing_iff : (∃ absent, missing allow es = .ok absent) ↔ ∀ e ∈ es, ∀ f, ¬ Unnamed e f := by
  rw [exists_ok_iff]
  simp only [missing_eq_error_iff_firstFault, exists_firstFault_iff, not_exists, not_and]

/-- How the search for absent names and a review of one catalog go together. The search comes to its end if a review
does, under any two allow lists. If the search has come to its end, a review fails at the first entry with an allowed
name whose latest version cannot be told, and at nothing else. The search fails at the first entry without a name that
can be looked up. -/
structure SharesShapes (catalog : List Json) : Prop where
  ends : ∀ a b selections, (select a catalog).selections = .ok selections → ∃ absent, missing b catalog = .ok absent
  select_error_iff : ∀ a b absent, missing b catalog = .ok absent →
    ∀ f, (select a catalog).selections = .error f ↔ FirstFault (fun e f ↦ HasNameIn a e ∧ Untold e f) catalog f
  missing_error_iff : ∀ b f, missing b catalog = .error f ↔ FirstFault Unnamed catalog f

theorem exists_missing_of_selections {selections : List Selection} (h : (select a es).selections = .ok selections) :
    ∃ absent, missing b es = .ok absent := by
  rw [exists_missing_iff]
  intro e he f hf
  exact exists_selections_iff.1 ⟨selections, h⟩ e he f (offends_iff.2 (.inl hf))

theorem select_error_iff_of_missing {absent : List Text} (h : missing b es = .ok absent) :
    (select a es).selections = .error f ↔ FirstFault (fun e f ↦ HasNameIn a e ∧ Untold e f) es f := by
  have hnamed := exists_missing_iff.1 ⟨absent, h⟩
  rw [selections_select_eq_error_iff]
  apply firstFault_congr
  intro e he g
  rw [offends_iff, or_iff_right (hnamed e he g)]

/-- A review and the search for absent names take the same entries to have names. -/
theorem sharesShapes (catalog : List Json) : SharesShapes catalog :=
  ⟨fun _ _ _ h ↦ exists_missing_of_selections h, fun _ _ _ h _ ↦ select_error_iff_of_missing h,
    fun _ _ ↦ missing_eq_error_iff_firstFault⟩

/-- A name that is an array stops the search, and so it does a review that comes to it before it comes to versions. -/
example : missing .empty [.obj [("short_name", .arr [])]] = .error .wrongKind ∧
    (select (.ofList ["k3s"]) [.obj [("short_name", .arr [])], .obj [("short_name", .str "k3s")]]).selections =
      .error .wrongKind := ⟨rfl, rfl⟩

end ClusterMatrix.Catalog

import Mathlib.Data.Prod.Lex
import ClusterMatrix.Proofs.Catalog.Latest

/-!
# The place of the latest version

Where all texts of a list spell versions, exactly one place holds their first maximum: each version in front of it is
smaller, and none behind it is greater. The latest of the list is the text at this place, as it was written. A single
text is the latest whatever it spells.
-/

namespace ClusterMatrix

/-- The components of a version in lexicographic order, the major one foremost. -/
def Version.triple (v : Version) : ℕ ×ₗ ℕ ×ₗ ℕ := toLex (v.major, toLex (v.minor, v.patch))

namespace Version

variable {v w : Version}

@[simp] theorem triple_lt_triple_iff : v.triple < w.triple ↔ v < w := by
  simp only [triple, Prod.Lex.toLex_lt_toLex, lt_iff]

theorem triple_le_triple_of_lt_or_eq (h : v < w ∨ v = w) : v.triple ≤ w.triple := by
  rcases h with h | rfl
  · exact (triple_lt_triple_iff.2 h).le
  · exact le_rfl

end Version

namespace Catalog

variable {vs : List Json} {i j : Nat}

/-- The place of the first maximum: its text spells a version, the texts in front of it smaller ones, and those behind
it smaller or equal ones. -/
def IsFirstMaximum (vs : List Json) (i : Nat) : Prop :=
  ∃ best v, vs[i]? = some best ∧ spelled best = .ok v ∧
    (∀ j < i, ∀ c, vs[j]? = some c → ∃ w, spelled c = .ok w ∧ w.triple < v.triple) ∧
    ∀ j > i, ∀ c, vs[j]? = some c → ∃ w, spelled c = .ok w ∧ w.triple ≤ v.triple

/-- The later one of two first maxima would be above the earlier one. -/
theorem IsFirstMaximum.not_lt (hi : IsFirstMaximum vs i) (hj : IsFirstMaximum vs j) : ¬ i < j := by
  intro hlt
  obtain ⟨a, v, ha, hv, -, hbehind⟩ := hi
  obtain ⟨b, w, hb, hw, hbefore, -⟩ := hj
  obtain ⟨v', hv', hvw⟩ := hbefore i hlt a ha
  obtain ⟨w', hw', hwv⟩ := hbehind j hlt b hb
  obtain rfl : v = v' := Except.ok.inj (hv.symm.trans hv')
  obtain rfl : w = w' := Except.ok.inj (hw.symm.trans hw')
  exact absurd hvw hwv.not_gt

theorem IsFirstMaximum.unique (hi : IsFirstMaximum vs i) (hj : IsFirstMaximum vs j) : i = j :=
  Nat.le_antisymm (Nat.not_lt.1 (hj.not_lt hi)) (Nat.not_lt.1 (hi.not_lt hj))

/-- The first maximum of a list stands at the place that the values in front of it leave. -/
theorem IsLatest.exists_isFirstMaximum {best : Json} (h : IsLatest best vs) :
    ∃ i, IsFirstMaximum vs i ∧ vs[i]? = some best := by
  obtain ⟨before, after, v, rfl, hv, hbefore, hafter⟩ := h
  have hbest : (before ++ best :: after)[before.length]? = some best := by
    simp
  refine ⟨before.length, ⟨best, v, hbest, hv, ?_, ?_⟩, hbest⟩
  · intro j hj c hc
    rw [List.getElem?_append_left hj] at hc
    obtain ⟨w, hw, hlt⟩ := hbefore c (List.mem_of_getElem? hc)
    exact ⟨w, hw, Version.triple_lt_triple_iff.2 hlt⟩
  · intro j hj c hc
    obtain ⟨k, hk⟩ : ∃ k, j - before.length = k + 1 := ⟨j - before.length - 1, by omega⟩
    rw [List.getElem?_append_right (by omega), hk, List.getElem?_cons_succ] at hc
    obtain ⟨w, hw, hle⟩ := hafter c (List.mem_of_getElem? hc)
    exact ⟨w, hw, Version.triple_le_triple_of_lt_or_eq hle⟩

/-- Where all that is left spells versions, the search for the latest comes to its end. -/
theorem exists_latestFrom_eq_ok {cs : List Json} (hc : ∀ c ∈ cs, ∃ w, spelled c = .ok w) (best : Json) (v : Version) :
    ∃ r, latestFrom best v cs = .ok r := by
  induction cs generalizing best v with
  | nil => exact ⟨best, rfl⟩
  | cons c cs ih =>
    rw [List.forall_mem_cons] at hc
    obtain ⟨⟨w, hw⟩, hcs⟩ := hc
    simp only [latestFrom, hw]
    split
    · exact ih hcs c w
    · exact ih hcs best v

/-- Of two or more values that all spell versions there is a latest one. -/
theorem exists_latest?_eq_ok (hc : ∀ v ∈ vs, ∃ w, spelled v = .ok w) (hl : 2 ≤ vs.length) :
    ∃ best, latest? vs = .ok (some best) ∧ IsLatest best vs := by
  have hnull : ∀ v ∈ vs, v.isNull = false := by
    intro v hv
    obtain ⟨w, hw⟩ := hc v hv
    cases v <;> first | rfl | cases hw
  obtain ⟨o, ho⟩ : ∃ o, latest? vs = .ok o := by
    match vs, hc, hl with
    | v :: u :: us, hc, _ =>
      obtain ⟨w, hw⟩ := hc v List.mem_cons_self
      obtain ⟨r, hr⟩ := exists_latestFrom_eq_ok (fun c hm ↦ hc c (List.mem_cons_of_mem v hm)) v w
      rw [latest?, dropWhile_isNull_of_forall hnull]
      simp only [hw, hr]
      exact ⟨_, rfl⟩
  rcases latest?_eq_ok hnull ho with ⟨-, rfl⟩ | ⟨best, rfl, -, hbest⟩
  · exact absurd hl (by decide)
  · exact ⟨best, ho, hbest hl⟩

/-- The latest of two or more texts that all spell versions is the one at the place of their first maximum, and there is
exactly one such place. No text is the latest of none, and a single one is the latest even if it spells no version. -/
theorem latest?_eq_getElem? (vs : List Json) (ht : ∀ v ∈ vs, v.text?.isSome = true) :
    (vs = [] → latest? vs = .ok none) ∧
      (∀ v, vs = [v] → latest? vs = .ok (some v)) ∧
      (2 ≤ vs.length → (∀ v ∈ vs, ∃ w, spelled v = .ok w) →
        (∃! i, IsFirstMaximum vs i) ∧ ∀ i, IsFirstMaximum vs i → latest? vs = .ok vs[i]?) := by
  refine ⟨?_, ?_, ?_⟩
  · rintro rfl
    rfl
  · rintro v rfl
    have hv := ht v List.mem_cons_self
    cases v <;> first | rfl | cases hv
  · intro hl hc
    obtain ⟨best, hbest, hlatest⟩ := exists_latest?_eq_ok hc hl
    obtain ⟨i, hi, hget⟩ := hlatest.exists_isFirstMaximum
    refine ⟨⟨i, hi, fun j hj ↦ hj.unique hi⟩, ?_⟩
    intro j hj
    rw [hbest, hj.unique hi, hget]

/-- Two spellings of the greatest version, between smaller ones. -/
def mixedSpellings : List Json := [.str "v1.24", .str "1.25.3-rc1", .str "v01.25.3", .str "1.9"]

theorem latest?_eq_getElem?_mixedSpellings :
    (∀ v ∈ mixedSpellings, v.text?.isSome = true) ∧ 2 ≤ mixedSpellings.length ∧
      (∀ v ∈ mixedSpellings, ∃ w, spelled v = .ok w) ∧
      (∃! i, IsFirstMaximum mixedSpellings i) ∧
      latest? mixedSpellings = .ok (some (.str "1.25.3-rc1")) := by
  have ht : ∀ v ∈ mixedSpellings, v.text?.isSome = true := by
    simp [mixedSpellings, Json.text?]
  have hc : ∀ v ∈ mixedSpellings, ∃ w, spelled v = .ok w := by
    simp only [mixedSpellings, List.forall_mem_cons]
    exact ⟨⟨⟨1, 24, 0⟩, rfl⟩, ⟨⟨1, 25, 3⟩, rfl⟩, ⟨⟨1, 25, 3⟩, rfl⟩, ⟨⟨1, 9, 0⟩, rfl⟩, fun _ hv ↦ absurd hv List.not_mem_nil⟩
  obtain ⟨-, -, h⟩ := latest?_eq_getElem? mixedSpellings ht
  have hl : 2 ≤ mixedSpellings.length := by decide
  exact ⟨ht, hl, hc, (h hl hc).1, rfl⟩

end Catalog

end ClusterMatrix

import ClusterMatrix.Catalog.Latest

/-!
# The law of the latest version

The latest of several values is the first maximum of the versions that they spell: what stands in front of it
spells a smaller version, and what stands behind it no greater one. `latestFrom` keeps this of the values that it
has seen, so `latest?` has it of a whole list.
-/

namespace ClusterMatrix

/-- A version that is not above another one is below it or equal to it. -/
theorem Version.lt_or_eq_of_not_lt {v w : Version} (h : ¬v < w) : w < v ∨ w = v := by
  by_cases hw : w < v
  · exact .inl hw
  · exact .inr (Version.eq_of_not_lt hw h)

namespace Catalog

/-- The value is the first maximum of a list: all values spell versions, those in front of it smaller ones, and
those behind it smaller or equal ones. -/
def IsLatest (best : Json) (vs : List Json) : Prop :=
  ∃ before after v, vs = before ++ best :: after ∧ spelled best = .ok v ∧
    (∀ c ∈ before, ∃ w, spelled c = .ok w ∧ w < v) ∧
    ∀ c ∈ after, ∃ w, spelled c = .ok w ∧ (w < v ∨ w = v)

theorem IsLatest.mem {best : Json} {vs : List Json} (h : IsLatest best vs) : best ∈ vs := by
  obtain ⟨before, after, v, rfl, -⟩ := h
  exact List.mem_append_right before List.mem_cons_self

/-- A value alone is the latest. -/
theorem IsLatest.singleton {best : Json} {v : Version} (h : spelled best = .ok v) : IsLatest best [best] :=
  ⟨[], [], v, rfl, h, fun _ hc ↦ absurd hc List.not_mem_nil, fun _ hc ↦ absurd hc List.not_mem_nil⟩

/-- A smaller value in front of a list changes nothing. -/
theorem IsLatest.cons_of_lt {best c r : Json} {cs : List Json} {v w : Version} (hb : spelled best = .ok v)
    (hc : spelled c = .ok w) (hlt : v < w) (h : IsLatest r (c :: cs)) : IsLatest r (best :: c :: cs) := by
  obtain ⟨before, after, u, he, hr, hbefore, hafter⟩ := h
  have hvu : v < u := by
    cases before with
    | nil =>
      obtain ⟨rfl, -⟩ := List.cons.inj he
      rw [hc] at hr
      exact Except.ok.inj hr ▸ hlt
    | cons d ds =>
      obtain ⟨rfl, -⟩ := List.cons.inj he
      obtain ⟨w', hw', hlt'⟩ := hbefore c List.mem_cons_self
      rw [hc] at hw'
      exact Version.lt_trans hlt (Except.ok.inj hw' ▸ hlt')
  refine ⟨best :: before, after, u, by rw [he, List.cons_append], hr, ?_, hafter⟩
  intro d hd
  rcases List.mem_cons.1 hd with rfl | hd
  · exact ⟨v, hb, hvu⟩
  · exact hbefore d hd

/-- A value that is not above the one in front of it changes nothing either. -/
theorem IsLatest.insert_of_not_lt {best c r : Json} {cs : List Json} {v w : Version} (hb : spelled best = .ok v)
    (hc : spelled c = .ok w) (hlt : ¬v < w) (h : IsLatest r (best :: cs)) : IsLatest r (best :: c :: cs) := by
  obtain ⟨before, after, u, he, hr, hbefore, hafter⟩ := h
  have hw := Version.lt_or_eq_of_not_lt hlt
  cases before with
  | nil =>
    obtain ⟨rfl, rfl⟩ := List.cons.inj he
    rw [hb] at hr
    obtain rfl := Except.ok.inj hr
    refine ⟨[], c :: cs, v, rfl, hb, hbefore, ?_⟩
    intro d hd
    rcases List.mem_cons.1 hd with rfl | hd
    · exact ⟨w, hc, hw⟩
    · exact hafter d hd
  | cons d ds =>
    obtain ⟨rfl, rfl⟩ := List.cons.inj he
    obtain ⟨v', hv', hvu⟩ := hbefore best List.mem_cons_self
    rw [hb] at hv'
    obtain rfl := Except.ok.inj hv'
    have hwu : w < u := by
      rcases hw with hw | rfl
      · exact Version.lt_trans hw hvu
      · exact hvu
    refine ⟨best :: c :: ds, after, u, rfl, hr, ?_, hafter⟩
    intro d hd
    rcases List.mem_cons.1 hd with rfl | hd
    · exact ⟨v, hb, hvu⟩
    rcases List.mem_cons.1 hd with rfl | hd
    · exact ⟨w, hc, hwu⟩
    · exact hbefore d (List.mem_cons_of_mem best hd)

/-- `latestFrom` finds the first maximum of what it holds and what it still reads. -/
theorem isLatest_of_latestFrom {best r : Json} {v : Version} {cs : List Json} (hb : spelled best = .ok v)
    (h : latestFrom best v cs = .ok r) : IsLatest r (best :: cs) := by
  induction cs generalizing best v with
  | nil =>
    obtain rfl := Except.ok.inj h
    exact .singleton hb
  | cons c cs ih =>
    rw [latestFrom] at h
    cases hc : spelled c with
    | error f =>
      rw [hc] at h
      cases h
    | ok w =>
      simp only [hc] at h
      by_cases hlt : v < w
      · rw [if_pos hlt] at h
        exact .cons_of_lt hb hc hlt (ih hc h)
      · rw [if_neg hlt] at h
        exact .insert_of_not_lt hb hc hlt (ih hb h)

theorem dropWhile_isNull_of_forall {vs : List Json} (h : ∀ v ∈ vs, v.isNull = false) :
    vs.dropWhile Json.isNull = vs := by
  cases vs with
  | nil => rfl
  | cons v vs => rw [List.dropWhile_cons_of_neg (by rw [h v List.mem_cons_self]; exact Bool.false_ne_true)]

/-- What `latest?` says of a list without nulls: nothing of an empty one, the value of a single one, and else the
first maximum. -/
theorem latest?_eq_ok {vs : List Json} {o : Option Json} (hn : ∀ v ∈ vs, v.isNull = false)
    (h : latest? vs = .ok o) :
    (o = none ∧ vs = []) ∨
      ∃ best, o = some best ∧ best ∈ vs ∧ (2 ≤ vs.length → IsLatest best vs) := by
  rw [latest?, dropWhile_isNull_of_forall hn] at h
  match vs, h with
  | [], h => exact .inl ⟨(Except.ok.inj h).symm, rfl⟩
  | [v], h =>
    refine .inr ⟨v, (Except.ok.inj h).symm, List.mem_singleton_self v, fun hl ↦ ?_⟩
    exact absurd hl (Nat.not_succ_le_self 1)
  | v :: w :: vs, h =>
    simp only at h
    cases hv : spelled v with
    | error f =>
      rw [hv] at h
      cases h
    | ok u =>
      simp only [hv] at h
      cases hl : latestFrom v u (w :: vs) with
      | error f =>
        rw [hl] at h
        cases h
      | ok best =>
        simp only [hl] at h
        have hb := isLatest_of_latestFrom hv hl
        exact .inr ⟨best, (Except.ok.inj h).symm, hb.mem, fun _ ↦ hb⟩

end Catalog

end ClusterMatrix

import Mathlib.Data.List.TakeWhile
import ClusterMatrix.Proofs.Catalog.FirstFault
import ClusterMatrix.Proofs.Catalog.Selection

/-!
# Entries that stop a review

An entry offends if it cannot be named, or if it is wanted and its versions cannot be told. A review stops at the first
such entry with its fault. Up to there each entry has brought its event, and none behind it brings one. The versions of
an entry that is not wanted are not looked at.
-/

namespace ClusterMatrix.Catalog

variable {allow : AllowList} {wanted : Json → Bool} {e n held : Json} {es vs : List Json} {f : Fault}

/-! ## What can come of an entry -/

/-- The ways in which an entry is judged, by the first thing that cannot be told of it. -/
inductive Judged (wanted : Json → Bool) (e : Json) : Except Fault Verdict → Prop where
  | unnamed {f : Fault} (hn : name e = .error f) : Judged wanted e (.error f)
  | skipped {n : Json} (hn : name e = .ok n) (hw : wanted n = false) : Judged wanted e (.ok (.skipped n))
  | unversioned {n : Json} {f : Fault} (hn : name e = .ok n) (hw : wanted n = true) (hv : versions e = .error f) :
      Judged wanted e (.error f)
  | itemless {n held : Json} {f : Fault} (hn : name e = .ok n) (hw : wanted n = true) (hv : versions e = .ok held)
      (hi : items held = .error f) : Judged wanted e (.error f)
  | malformed {n held : Json} {vs : List Json} {f : Fault} (hn : name e = .ok n) (hw : wanted n = true)
      (hv : versions e = .ok held) (hi : items held = .ok vs) (hl : latest? vs = .error f) : Judged wanted e (.error f)
  | bare {n held : Json} {vs : List Json} (hn : name e = .ok n) (hw : wanted n = true) (hv : versions e = .ok held)
      (hi : items held = .ok vs) (hl : latest? vs = .ok none) : Judged wanted e (.ok (.bare n))
  | selected {n held best : Json} {vs : List Json} (hn : name e = .ok n) (hw : wanted n = true)
      (hv : versions e = .ok held) (hi : items held = .ok vs) (hl : latest? vs = .ok (some best)) :
      Judged wanted e (.ok (.selected ⟨n, best⟩))

theorem judged (wanted : Json → Bool) (e : Json) : Judged wanted e (judge wanted e) := by
  rw [judge]
  cases hn : name e with
  | error f => exact .unnamed hn
  | ok n =>
    dsimp only
    cases hw : wanted n with
    | false => exact .skipped hn hw
    | true =>
      rw [if_pos rfl]
      cases hv : versions e with
      | error f => exact .unversioned hn hw hv
      | ok held =>
        dsimp only
        cases hi : items held with
        | error f => exact .itemless hn hw hv hi
        | ok vs =>
          dsimp only
          cases hl : latest? vs with
          | error f => exact .malformed hn hw hv hi hl
          | ok o =>
            cases o with
            | none => exact .bare hn hw hv hi hl
            | some best => exact .selected hn hw hv hi hl

/-! ## Fields and items -/

theorem field_eq_ok_iff {k : String} {v : Json} : field k e = .ok v ↔ e.get? k = some v := ⟨get?_of_field, field_of_get?⟩

/-- A field cannot be read if the value is no object, or an object without it. -/
theorem field_eq_error_iff {k : String} : field k e = .error f ↔
    (∀ ms, e ≠ .obj ms) ∧ f = .wrongKind ∨ ∃ ms, e = .obj ms ∧ ms.lookup (.whole k) = none ∧ f = .noField k := by
  constructor
  · intro h
    cases e with
    | obj ms =>
      rw [field] at h
      split at h
      · cases h
      · rename_i hl
        exact .inr ⟨ms, rfl, hl, (Except.error.inj h).symm⟩
    | _ => exact .inl ⟨fun _ ↦ Json.noConfusion, (Except.error.inj h).symm⟩
  · rintro (⟨h, rfl⟩ | ⟨ms, rfl, hl, rfl⟩)
    · cases e with
      | obj ms => exact absurd rfl (h ms)
      | _ => rfl
    · rw [field, hl]

theorem name_eq_ok_iff : name e = .ok n ↔ e.get? "short_name" = some n ∧ isName n = true := by
  rw [name, ← field_eq_ok_iff]
  cases field "short_name" e with
  | error f => simp
  | ok m =>
    dsimp only
    split
    · rename_i hm
      simp only [Except.ok.injEq]
      constructor
      · rintro rfl
        exact ⟨rfl, hm⟩
      · exact fun h ↦ h.1
    · rename_i hm
      simp only [reduceCtorEq, Except.ok.injEq, false_iff]
      rintro ⟨rfl, h⟩
      exact hm h

@[simp] theorem isName_ofText (x : Text) : isName (.ofText x) = true := by cases x <;> rfl

theorem isName_eq_false_iff : isName n = false ↔ (∃ vs, n = .arr vs) ∨ ∃ ms, n = .obj ms := by
  cases n <;> simp [isName]

/-- A value without items: neither a text nor an array nor an object. -/
def HasNoItems : Json → Prop
  | .null => True
  | .bool _ => True
  | .int _ => True
  | .float _ => True
  | _ => False

theorem items_eq_error_iff : items held = .error f ↔ HasNoItems held ∧ f = .wrongKind := by
  rw [eq_comm (a := f)]
  cases held <;> simp [items, HasNoItems]

/-! ## Offences -/

/-- The entry offends with the fault: it is no object, has no name or one that cannot be looked up, or its name is
allowed and it has no versions, versions without items, or versions of which none can be told to be the latest. -/
inductive Offends (allow : AllowList) (e : Json) : Fault → Prop where
  | notObject (h : ∀ ms, e ≠ .obj ms) : Offends allow e .wrongKind
  | noName {ms : List (Text × Json)} (h : e = .obj ms) (hn : ms.lookup (.whole "short_name") = none) :
      Offends allow e (.noField "short_name")
  | badName {n : Json} (hn : e.get? "short_name" = some n) (hb : (∃ vs, n = .arr vs) ∨ ∃ ms, n = .obj ms) :
      Offends allow e .wrongKind
  | noVersions {n : Text} (hn : e.get? "short_name" = some (.ofText n)) (ha : n ∈ allow)
      (hv : e.get? "versions" = none) : Offends allow e (.noField "versions")
  | noItems {n : Text} {held : Json} (hn : e.get? "short_name" = some (.ofText n)) (ha : n ∈ allow)
      (hv : e.get? "versions" = some held) (hi : HasNoItems held) : Offends allow e .wrongKind
  | noLatest {n : Text} {held : Json} {vs : List Json} {f : Fault} (hn : e.get? "short_name" = some (.ofText n))
      (ha : n ∈ allow) (hv : e.get? "versions" = some held) (hi : items held = .ok vs) (hl : latest? vs = .error f) :
      Offends allow e f

theorem offends_of_name (h : name e = .error f) : Offends allow e f := by
  rw [name] at h
  cases hf : field "short_name" e with
  | error g =>
    rw [hf] at h
    obtain rfl := Except.error.inj h
    rcases field_eq_error_iff.1 hf with ⟨he, rfl⟩ | ⟨ms, he, hl, rfl⟩
    · exact .notObject he
    · exact .noName he hl
  | ok n =>
    rw [hf] at h
    dsimp only at h
    split at h
    · cases h
    · rename_i hn
      obtain rfl := Except.error.inj h
      exact .badName (field_eq_ok_iff.1 hf) (isName_eq_false_iff.1 (Bool.eq_false_iff.2 hn))

/-- Only an object has a name, so one with a name and without versions lacks just these. -/
theorem versions_eq_error_iff (hn : e.get? "short_name" = some n) :
    versions e = .error f ↔ e.get? "versions" = none ∧ f = .noField "versions" := by
  cases e with
  | obj ms =>
    rw [versions, field_eq_error_iff]
    simp [Json.get?]
  | _ => cases hn

/-- An entry cannot be judged just if it offends. -/
theorem judge_eq_error_iff : judge (admits allow) e = .error f ↔ Offends allow e f := by
  constructor
  · intro h
    have hj := judged (admits allow) e
    rw [h] at hj
    cases hj with
    | unnamed hn => exact offends_of_name hn
    | unversioned hn hw hv =>
      obtain ⟨n, ha, rfl⟩ := admits_iff.1 hw
      have hname := (name_eq_ok_iff.1 hn).1
      obtain ⟨hnone, rfl⟩ := (versions_eq_error_iff hname).1 hv
      exact .noVersions hname ha hnone
    | itemless hn hw hv hi =>
      obtain ⟨n, ha, rfl⟩ := admits_iff.1 hw
      obtain ⟨hnone, rfl⟩ := items_eq_error_iff.1 hi
      exact .noItems (name_eq_ok_iff.1 hn).1 ha (field_eq_ok_iff.1 hv) hnone
    | malformed hn hw hv hi hl =>
      obtain ⟨n, ha, rfl⟩ := admits_iff.1 hw
      exact .noLatest (name_eq_ok_iff.1 hn).1 ha (field_eq_ok_iff.1 hv) hi hl
  · intro h
    have hname : ∀ {n : Text}, e.get? "short_name" = some (.ofText n) → name e = .ok (.ofText n) :=
      fun hn ↦ name_eq_ok_iff.2 ⟨hn, isName_ofText _⟩
    have hwanted : ∀ {n : Text}, n ∈ allow → admits allow (.ofText n) = true := fun ha ↦ admits_iff.2 ⟨_, ha, rfl⟩
    cases h with
    | notObject h => simp only [judge, name, field_eq_error_iff.2 (.inl ⟨h, rfl⟩)]
    | noName h hn => simp only [judge, name, field_eq_error_iff.2 (.inr ⟨_, h, hn, rfl⟩)]
    | badName hn hb =>
      simp only [judge, name, field_eq_ok_iff.2 hn, isName_eq_false_iff.2 hb, Bool.false_eq_true, ↓reduceIte]
    | noVersions hn ha hv =>
      simp only [judge, hname hn, hwanted ha, ↓reduceIte, (versions_eq_error_iff hn).2 ⟨hv, rfl⟩]
    | noItems hn ha hv hi =>
      simp only [judge, hname hn, hwanted ha, ↓reduceIte, versions, field_eq_ok_iff.2 hv,
        items_eq_error_iff.2 ⟨hi, rfl⟩]
    | noLatest hn ha hv hi hl =>
      simp only [judge, hname hn, hwanted ha, ↓reduceIte, versions, field_eq_ok_iff.2 hv, hi, hl]

/-- The versions of an entry with a name that is not allowed are not looked at. -/
theorem not_offends_of_not_admits (hn : e.get? "short_name" = some n) (hi : isName n = true)
    (ha : admits allow n = false) : ¬ Offends allow e f := by
  rw [← judge_eq_error_iff, judge_of_not_wanted (name_eq_ok_iff.2 ⟨hn, hi⟩) ha]
  rintro ⟨⟩

/-! ## Names and versions -/

/-- The entry has no name that can be looked up: it is no object, has no such field, or holds an array or an object
there. -/
inductive Unnamed (e : Json) : Fault → Prop where
  | notObject (h : ∀ ms, e ≠ .obj ms) : Unnamed e .wrongKind
  | noName {ms : List (Text × Json)} (h : e = .obj ms) (hn : ms.lookup (.whole "short_name") = none) :
      Unnamed e (.noField "short_name")
  | badName {n : Json} (hn : e.get? "short_name" = some n) (hb : (∃ vs, n = .arr vs) ∨ ∃ ms, n = .obj ms) :
      Unnamed e .wrongKind

/-- The latest version of the entry cannot be told: there are no versions, or what stands for them has no items, or
none of these can be told to be the latest. -/
inductive Untold (e : Json) : Fault → Prop where
  | noVersions (hv : e.get? "versions" = none) : Untold e (.noField "versions")
  | noItems {held : Json} (hv : e.get? "versions" = some held) (hi : HasNoItems held) : Untold e .wrongKind
  | noLatest {held : Json} {vs : List Json} {f : Fault} (hv : e.get? "versions" = some held)
      (hi : items held = .ok vs) (hl : latest? vs = .error f) : Untold e f

def HasNameIn (allow : AllowList) (e : Json) : Prop := ∃ n ∈ allow, e.get? "short_name" = some (.ofText n)

/-- The allow list only tells whose versions are looked at. -/
theorem offends_iff : Offends allow e f ↔ Unnamed e f ∨ HasNameIn allow e ∧ Untold e f := by
  constructor
  · intro h
    cases h with
    | notObject h => exact .inl (.notObject h)
    | noName h hn => exact .inl (.noName h hn)
    | badName hn hb => exact .inl (.badName hn hb)
    | noVersions hn ha hv => exact .inr ⟨⟨_, ha, hn⟩, .noVersions hv⟩
    | noItems hn ha hv hi => exact .inr ⟨⟨_, ha, hn⟩, .noItems hv hi⟩
    | noLatest hn ha hv hi hl => exact .inr ⟨⟨_, ha, hn⟩, .noLatest hv hi hl⟩
  · rintro (h | ⟨⟨n, ha, hn⟩, h⟩)
    · cases h with
      | notObject h => exact .notObject h
      | noName h hn => exact .noName h hn
      | badName hn hb => exact .badName hn hb
    · cases h with
      | noVersions hv => exact .noVersions hn ha hv
      | noItems hv hi => exact .noItems hn ha hv hi
      | noLatest hv hi hl => exact .noLatest hn ha hv hi hl

/-! ## Events -/

/-- What the versions of an entry hold. -/
def heldVersions (e : Json) : List Json :=
  match e.get? "versions" with
  | some held => (items held).toOption.getD []
  | none => []

/-- The event of an entry that does not offend: it is not wanted, or nothing but nulls is among its versions. -/
def remark? (allow : AllowList) (e : Json) : Option Event :=
  if admits allow (listedName e) then
    if (heldVersions e).all Json.isNull then
      some (.log .warning (.concat ["Distribution ", (listedName e).display, " has no versions, omitting"]))
    else none
  else some (.log .debug (.concat ["Skipping distribution ", (listedName e).display]))

/-- Nothing is the latest of nulls alone. -/
theorem all_isNull_of_latest? {o : Option Json} (h : latest? vs = .ok o) : vs.all Json.isNull = o.isNone := by
  have hnil : vs.all Json.isNull = (vs.dropWhile Json.isNull).isEmpty := by
    rw [Bool.eq_iff_iff, List.all_eq_true, List.isEmpty_iff, List.dropWhile_eq_nil_iff]
  rw [hnil]
  unfold latest? at h
  split at h
  · rename_i hd
    obtain rfl := Except.ok.inj h
    rw [hd]
    rfl
  · rename_i hd
    obtain rfl := Except.ok.inj h
    rw [hd]
    rfl
  · rename_i hd
    rw [hd]
    split at h
    · cases h
    · split at h
      · cases h
      · obtain rfl := Except.ok.inj h
        rfl

theorem listedName_of_name (h : name e = .ok n) : listedName e = n := by
  rw [listedName, (name_eq_ok_iff.1 h).1, Option.getD_some]

theorem heldVersions_of_versions (hv : versions e = .ok held) (hi : items held = .ok vs) : heldVersions e = vs := by
  rw [heldVersions, field_eq_ok_iff.1 hv]
  dsimp only
  rw [hi]
  rfl

/-- A verdict brings the event that the entry calls for. -/
theorem event?_eq_remark? {v : Verdict} (h : judge (admits allow) e = .ok v) : v.event? = remark? allow e := by
  have hj := judged (admits allow) e
  rw [h] at hj
  rw [remark?]
  cases hj with
  | skipped hn hw =>
    rw [listedName_of_name hn, hw, if_neg Bool.false_ne_true]
    rfl
  | bare hn hw hv hi hl =>
    rw [listedName_of_name hn, hw, if_pos rfl, heldVersions_of_versions hv hi, all_isNull_of_latest? hl]
    rfl
  | selected hn hw hv hi hl =>
    rw [listedName_of_name hn, hw, if_pos rfl, heldVersions_of_versions hv hi, all_isNull_of_latest? hl]
    rfl

/-! ## Reviews -/

theorem exists_judge_of_not_offends (h : ∀ g, ¬ Offends allow e g) : ∃ v, judge (admits allow) e = .ok v := by
  rw [exists_ok_iff]
  rintro ⟨g, hg⟩
  exact h g (judge_eq_error_iff.1 hg)

/-- A review goes on behind an entry that does not offend. -/
theorem select_cons_of_not_offends (h : ∀ g, ¬ Offends allow e g) (es : List Json) :
    (select allow (e :: es)).fault? = (select allow es).fault? ∧
      (select allow (e :: es)).events = (remark? allow e).toList ++ (select allow es).events := by
  obtain ⟨v, hv⟩ := exists_judge_of_not_offends h
  rw [select, review_cons_of_ok hv]
  refine ⟨rfl, ?_⟩
  rw [Review.events, List.filterMap_cons, event?_eq_remark? hv]
  cases remark? allow e <;> rfl

/-- A review stops at an entry that offends. -/
theorem select_cons_of_offends (h : Offends allow e f) (es : List Json) :
    (select allow (e :: es)).fault? = some f ∧ (select allow (e :: es)).events = [] := by
  rw [select, review_cons_of_error (judge_eq_error_iff.2 h)]
  exact ⟨rfl, rfl⟩

/-- Behind entries that do not offend a review goes on with their events. -/
theorem select_append_of_not_offends (h : ∀ b ∈ es, ∀ g, ¬ Offends allow b g) (rest : List Json) :
    (select allow (es ++ rest)).fault? = (select allow rest).fault? ∧
      (select allow (es ++ rest)).events = es.filterMap (remark? allow) ++ (select allow rest).events := by
  induction es with
  | nil => exact ⟨rfl, rfl⟩
  | cons e es ih =>
    rw [List.forall_mem_cons] at h
    obtain ⟨hfault, hevents⟩ := ih h.2
    obtain ⟨hfault', hevents'⟩ := select_cons_of_not_offends h.1 (es ++ rest)
    rw [List.cons_append, hfault', hevents', hfault, hevents, List.filterMap_cons, ← List.append_assoc]
    refine ⟨rfl, ?_⟩
    cases remark? allow e <;> rfl

/-- The fault of a review is the first one. -/
theorem fault?_select_eq_some_iff : (select allow es).fault? = some f ↔ FirstFault (Offends allow) es f := by
  induction es with
  | nil => exact ⟨nofun, fun h ↦ absurd h not_firstFault_nil⟩
  | cons e es ih =>
    cases hj : judge (admits allow) e with
    | error g =>
      rw [firstFault_cons_of_error (fun _ ↦ judge_eq_error_iff) hj,
        (select_cons_of_offends (judge_eq_error_iff.1 hj) es).1, Option.some.injEq]
    | ok v =>
      rw [firstFault_cons_of_ok (fun _ ↦ judge_eq_error_iff) hj, ← ih, select, review_cons_of_ok hj]
      rfl

theorem selections_eq_error_iff {r : Review} : r.selections = .error f ↔ r.fault? = some f := by
  rw [Review.selections]
  cases r.fault? with
  | none => simp only [reduceCtorEq]
  | some g => simp only [Except.error.injEq, Option.some.injEq]

theorem selections_select_eq_error_iff :
    (select allow es).selections = .error f ↔ FirstFault (Offends allow) es f :=
  selections_eq_error_iff.trans fault?_select_eq_some_iff

/-- A review comes to its end just if no entry offends. -/
theorem exists_selections_iff :
    (∃ selections, (select allow es).selections = .ok selections) ↔ ∀ e ∈ es, ∀ f, ¬ Offends allow e f := by
  rw [exists_ok_iff]
  simp only [selections_select_eq_error_iff, exists_firstFault_iff, not_exists, not_and]

/-- A selection fails just if an entry offends, and then with the fault of the first such entry, after the events of the
entries in front of it and no others. Entries that have a name which is not allowed do not offend. -/
structure FailsAtFirst (allow : AllowList) (catalog : List Json) : Prop where
  fails_iff : (∃ f, (select allow catalog).selections = .error f) ↔ ∃ e ∈ catalog, ∃ f, Offends allow e f
  first : ∀ f, (select allow catalog).selections = .error f → ∃ before e after, catalog = before ++ e :: after ∧
    (∀ b ∈ before, ∀ g, ¬ Offends allow b g) ∧ Offends allow e f ∧
    (select allow catalog).events = before.filterMap (remark? allow)
  unlisted : ∀ e ∈ catalog, ∀ n, e.get? "short_name" = some n → isName n = true → admits allow n = false →
    ∀ f, ¬ Offends allow e f

theorem failsAtFirst (allow : AllowList) (catalog : List Json) : FailsAtFirst allow catalog := by
  refine ⟨?_, fun f h ↦ ?_, fun e _ n hn hi ha f ↦ not_offends_of_not_admits hn hi ha⟩
  · simp only [selections_eq_error_iff, fault?_select_eq_some_iff]
    exact exists_firstFault_iff
  · rw [selections_eq_error_iff, fault?_select_eq_some_iff] at h
    obtain ⟨before, e, after, rfl, hbefore, he⟩ := h
    refine ⟨before, e, after, rfl, hbefore, he, ?_⟩
    rw [(select_append_of_not_offends hbefore _).2, (select_cons_of_offends he after).2, List.append_nil]

end ClusterMatrix.Catalog

import ClusterMatrix.Catalog.Latest
import ClusterMatrix.Proofs.Catalog.FirstFault
import ClusterMatrix.Proofs.Version.Search

/-!
# Values that spell no version

A text spells the version of its runs of digits, or none if they are all too long; its fault then carries the text. No
other value spells a version. The latest of several values cannot be told if one of them spells none, and the first
such value is to blame.
-/

namespace ClusterMatrix.Catalog

open Version (Cut Run runs continued furtherOf coerce? ofRuns?)

variable {v : Json} {f : Fault} {s : List Char}

/-- The fault of a value that spells no version: a text is carried along. -/
def unspelled : Json → Fault
  | .str s => .malformed s
  | .ragged r => .malformedRagged r
  | _ => .wrongKind

theorem spelled_of_text? (h : v.text? = some s) :
    spelled v = (coerce? s).elim (.error (unspelled v)) .ok := by
  cases v with
  | str t =>
    obtain rfl := Option.some.inj h
    rw [spelled]
    cases coerce? t.toList <;> rfl
  | ragged r =>
    obtain rfl := Option.some.inj h
    rw [spelled]
    cases coerce? r.shown <;> rfl
  | _ => cases h

theorem spelled_of_text?_eq_none (h : v.text? = none) : spelled v = .error .wrongKind := by
  cases v <;> first | rfl | cases h

/-! ## Texts -/

/-- The runs of digits in a text tell what it spells. They are the only ones that cut it, and hold ASCII digits alone.
If all are too long the text is malformed. Else the first short one gives the major component, and those that continue
it behind single points give the others. -/
structure ToldByRuns (v : Json) (s : List Char) : Prop where
  cut_iff : ∀ rs, Cut s rs ↔ runs s = rs
  ascii : ∀ r ∈ runs s, ∀ c ∈ r.digits, '0' ≤ c ∧ c ≤ '9'
  error_iff : ∀ f, spelled v = .error f ↔ f = unspelled v ∧ ∀ r ∈ runs s, 16 < r.digits.length
  ok_iff : ∀ w, spelled v = .ok w ↔ ∃ long r rest, runs s = long ++ r :: rest ∧
    (∀ q ∈ long, 16 < q.digits.length) ∧ r.digits.length ≤ 16 ∧ w.major = r.value ∧
    w.minor = (continued rest).elim 0 Prod.fst ∧
    w.patch = ((continued rest).bind fun c ↦ continued c.2).elim 0 Prod.fst
  lt : ∀ w, spelled v = .ok w → w.major < 10 ^ 16 ∧ w.minor < 10 ^ 16 ∧ w.patch < 10 ^ 16

theorem isShort_eq_false_iff {r : Run} : r.isShort = false ↔ 16 < r.digits.length := by
  rw [← Bool.not_eq_true, Run.isShort_iff, Nat.not_le]
  rfl

theorem spelled_eq_ofRuns? (h : v.text? = some s) :
    spelled v = (ofRuns? (runs s)).elim (.error (unspelled v)) .ok := by
  rw [spelled_of_text? h, Version.coerce?_eq_ofRuns?]

theorem toldByRuns_of_text? (h : v.text? = some s) : ToldByRuns v s := by
  have hspelled := spelled_eq_ofRuns? h
  have hdigits := (Version.cut_runs s).isDigit
  refine ⟨fun rs ↦ Version.cut_iff, ?_, ?_, ?_, ?_⟩
  · intro r hr c hc
    have hdigit := hdigits r hr c hc
    rwa [Char.isDigit, Bool.and_eq_true, decide_eq_true_iff, decide_eq_true_iff] at hdigit
  · intro f
    simp only [hspelled, ← isShort_eq_false_iff, ← Version.ofRuns?_eq_none_iff]
    cases ofRuns? (runs s) with
    | none => simp [eq_comm]
    | some w => simp
  · intro w
    have hok : spelled v = .ok w ↔ ofRuns? (runs s) = some w := by
      rw [hspelled]
      cases ofRuns? (runs s) <;> simp
    rw [hok, Version.ofRuns?_eq_some_iff]
    simp only [isShort_eq_false_iff, Run.isShort_iff, Version.ext_iff]
    rfl
  · intro w hw
    refine Version.ofRuns?_lt hdigits ?_
    rw [hspelled] at hw
    cases ho : ofRuns? (runs s) with
    | none =>
      rw [ho] at hw
      cases hw
    | some u =>
      rw [ho] at hw
      rw [Except.ok.inj hw]

/-- The search through a text finds what a scan over its runs of digits tells. -/
theorem toldByRuns : (∀ raw : String, ToldByRuns (.str raw) raw.toList) ∧
    ∀ raw : Text.Ragged, ToldByRuns (.ragged raw) raw.shown :=
  ⟨fun _ ↦ toldByRuns_of_text? rfl, fun _ ↦ toldByRuns_of_text? rfl⟩

/-! ## Lists -/

/-- The value spells no version, and the fault says so: it is no text, or a malformed one. -/
inductive Blames : Json → Fault → Prop where
  | notText {v : Json} (h : v.text? = none) : Blames v .wrongKind
  | malformed {v : Json} {s : List Char} (h : v.text? = some s) (hs : coerce? s = none) : Blames v (unspelled v)

theorem spelled_eq_error_iff : spelled v = .error f ↔ Blames v f := by
  constructor
  · intro h
    cases ht : v.text? with
    | none =>
      rw [spelled_of_text?_eq_none ht] at h
      obtain rfl := Except.error.inj h
      exact .notText ht
    | some s =>
      rw [spelled_of_text? ht] at h
      cases hs : coerce? s with
      | none =>
        rw [hs] at h
        obtain rfl := Except.error.inj h
        exact .malformed ht hs
      | some w =>
        rw [hs] at h
        cases h
  · intro h
    cases h with
    | notText h => exact spelled_of_text?_eq_none h
    | malformed h hs =>
      rw [spelled_of_text? h, hs]
      rfl

/-- The values behind the best one are read in order, up to the first that spells no version. -/
theorem latestFrom_eq_error_iff {best : Json} {w : Version} {cs : List Json} :
    latestFrom best w cs = .error f ↔ FirstFault Blames cs f := by
  induction cs generalizing best w with
  | nil => exact ⟨nofun, fun h ↦ absurd h not_firstFault_nil⟩
  | cons c cs ih =>
    rw [latestFrom]
    cases hc : spelled c with
    | error g =>
      rw [firstFault_cons_of_error (fun _ ↦ spelled_eq_error_iff) hc]
      dsimp only
      rw [Except.error.injEq]
    | ok u =>
      rw [firstFault_cons_of_ok (fun _ ↦ spelled_eq_error_iff) hc]
      dsimp only
      split
      · exact ih
      · exact ih

/-- What `latest?` does with the values that are left behind leading nulls: of two or more, all have to spell versions,
and the first that does not is to blame; fewer are not looked at. -/
structure BlamesFirst (vs left : List Json) : Prop where
  alone : left.length ≤ 1 → latest? vs = .ok left.head?
  raises_iff : 2 ≤ left.length → ((∃ f, latest? vs = .error f) ↔ ∃ v ∈ left, ∃ f, Blames v f)
  error_iff : 2 ≤ left.length → ∀ f, latest? vs = .error f ↔ FirstFault Blames left f

/-- Two or more values are compared as the first of them with the others. -/
theorem latest?_eq_error_iff {vs : List Json} (hl : 2 ≤ (vs.dropWhile Json.isNull).length) :
    latest? vs = .error f ↔ FirstFault Blames (vs.dropWhile Json.isNull) f := by
  rw [latest?]
  match vs.dropWhile Json.isNull, hl with
  | v :: w :: left, _ =>
    dsimp only
    cases hv : spelled v with
    | error g =>
      rw [firstFault_cons_of_error (fun _ ↦ spelled_eq_error_iff) hv]
      dsimp only
      rw [Except.error.injEq]
    | ok u =>
      rw [firstFault_cons_of_ok (fun _ ↦ spelled_eq_error_iff) hv, ← @latestFrom_eq_error_iff f v u]
      dsimp only
      cases latestFrom v u (w :: left) with
      | error g => simp only [Except.error.injEq]
      | ok best => exact ⟨nofun, nofun⟩

/-- A list whose latest value cannot be told blames its first value that spells no version, and a single value is taken
whatever it is. -/
theorem blamesFirst (vs : List Json) : BlamesFirst vs (vs.dropWhile Json.isNull) := by
  refine ⟨fun hl ↦ ?_, fun hl ↦ ?_, fun hl f ↦ latest?_eq_error_iff hl⟩
  · rw [latest?]
    match vs.dropWhile Json.isNull, hl with
    | [], _ => rfl
    | [v], _ => rfl
  · simp only [latest?_eq_error_iff hl]
    exact exists_firstFault_iff

/-- A null behind the first text is to blame before a malformed text behind it. -/
example : latest? [.null, .str "1.2", .null, .str "?"] = .error .wrongKind := rfl

end ClusterMatrix.Catalog

import ClusterMatrix.Fetch
import ClusterMatrix.Proofs.Json.Documents

/-!
# Bodies as JSON

A body is text first, and the text is JSON. What it is read as is told by the grammar of values. Where it is not read, a
fetch goes back to the text that it is not, to an integer beyond the limit, or to what is no JSON at all.
-/

namespace ClusterMatrix.Http

open Json (AnyLength IsDocument IsShort MeetsLongInteger)

variable {r : Response} {text : List Char} {v : Json} {f : ContentFault}

/-- The text of a body: under the label that is declared for it, or in the character set that its bytes tell if there
is no label and they are a text in this set. -/
def Response.bodyText (r : Response) : Except Charset.TextFault (List Char) :=
  let label := ((r.header? "Content-Type").bind Response.declaredLabel?).getD []
  let guessed :=
    if label = [] ∧ 3 < r.body.length then
      (Charset.guess? r.body).bind fun cs ↦ cs.decodeExactly? r.body
    else none
  match guessed with
  | some text => .ok text
  | none => Charset.text label r.body

theorem json_of_text (h : r.bodyText = .ok text) : r.json = (Json.parse text).mapError .json := by
  rw [Response.bodyText] at h
  rw [Response.json]
  generalize ((r.header? "Content-Type").bind Response.declaredLabel?).getD [] = label at h ⊢
  split at h
  · rename_i hg
    obtain rfl := Except.ok.inj h
    simp only [hg]
  · rename_i hg
    simp only [hg, h]

theorem json_of_noText {f : Charset.TextFault} (h : r.bodyText = .error f) : r.json = .error (.text f) := by
  rw [Response.bodyText] at h
  rw [Response.json]
  generalize ((r.header? "Content-Type").bind Response.declaredLabel?).getD [] = label at h ⊢
  split at h
  · cases h
  · rename_i hg
    simp only [hg, h]

/-- The body is not decoded: it is no text, or the text meets an integer beyond the limit, or else denotes no value. -/
inductive Undecoded (r : Response) : FetchCause → Prop where
  | noText {f : Charset.TextFault} (h : r.bodyText = .error f) : Undecoded r (.text f)
  | longInteger {text : List Char} (h : r.bodyText = .ok text) (hm : MeetsLongInteger text) : Undecoded r .longInteger
  | notJson {text : List Char} (h : r.bodyText = .ok text) (hm : ¬ MeetsLongInteger text)
      (hv : ∀ v, ¬ IsDocument AnyLength v text) : Undecoded r .notJson

theorem json_eq_ok_iff : r.json = .ok v ↔ ∃ text, r.bodyText = .ok text ∧ IsDocument IsShort v text := by
  cases h : r.bodyText with
  | error f =>
    rw [json_of_noText h]
    simp only [reduceCtorEq, false_and, exists_false]
  | ok text =>
    simp only [json_of_text h, Except.ok.injEq, exists_eq_left', ← Json.parse_eq_ok_iff]
    cases Json.parse text with
    | error e => exact ⟨nofun, nofun⟩
    | ok w => simp only [Except.mapError, Except.ok.injEq]

/-- What a fetch goes back to if a body is not read as JSON. -/
def ContentFault.cause : ContentFault → FetchCause
  | .text f => .text f
  | .json (.fault _) => .notJson
  | .json .longInteger => .longInteger

theorem exists_json_of_undecoded {cause : FetchCause} (h : Undecoded r cause) :
    ∃ f, r.json = .error f ∧ f.cause = cause := by
  cases h with
  | noText h => exact ⟨_, json_of_noText h, rfl⟩
  | longInteger h hm =>
    rw [json_of_text h, Json.parse_eq_longInteger_iff.2 hm]
    exact ⟨_, rfl, rfl⟩
  | notJson h hm hv =>
    obtain ⟨f, hf⟩ := Json.exists_parse_eq_fault_iff.2 ⟨hv, hm⟩
    rw [json_of_text h, hf]
    exact ⟨_, rfl, rfl⟩

theorem undecoded_of_json (h : r.json = .error f) : Undecoded r f.cause := by
  cases ht : r.bodyText with
  | error g =>
    rw [json_of_noText ht] at h
    obtain rfl := Except.error.inj h
    exact .noText ht
  | ok text =>
    rw [json_of_text ht] at h
    cases hp : Json.parse text with
    | ok v =>
      rw [hp] at h
      cases h
    | error e =>
      rw [hp] at h
      obtain rfl := Except.error.inj h
      cases e with
      | longInteger => exact .longInteger ht (Json.parse_eq_longInteger_iff.1 hp)
      | fault g =>
        obtain ⟨hv, hm⟩ := Json.exists_parse_eq_fault_iff.1 ⟨g, hp⟩
        exact .notJson ht hm hv

end ClusterMatrix.Http

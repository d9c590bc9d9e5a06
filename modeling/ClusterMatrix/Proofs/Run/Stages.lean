import ClusterMatrix.Run.Job

/-!
# Results of the stages

A stage comes to a result, fails with a message, or leaves a fault unhandled. Only three things make a run fail with a
message: its settings are misconfigured, the catalog cannot be fetched, or a version is malformed. The matrix job comes
to selections exactly where none of these, and no unhandled fault, stops it.
-/

namespace ClusterMatrix.Run

namespace Stage

variable {A B E : Type}

/-- A bind stops if one of its stages does. -/
theorem result_bind_eq_error_iff {x : Stage A} {k : A → Stage B} {s : Stop} :
    (x >>= k).result = .error s ↔ x.result = .error s ∨ ∃ a, x.result = .ok a ∧ (k a).result = .error s := by
  cases h : x.result with
  | error t => simp [bind_of_error h]
  | ok a => simp [bind_of_ok h]

theorem result_pure_eq_ok_iff {a b : A} : (pure a : Stage A).result = .ok b ↔ a = b := by
  rw [pure_eq, Except.ok.injEq]

theorem result_pure_ne_error (a : A) (s : Stop) : (pure a : Stage A).result ≠ .error s := nofun

theorem result_orAbort_eq_ok_iff {unhandled : E → Unhandled} {x : Except E A} {a : A} :
    (orAbort unhandled x).result = .ok a ↔ x = .ok a := by
  cases x with
  | error e => exact ⟨nofun, nofun⟩
  | ok b => rw [orAbort, result_pure_eq_ok_iff, Except.ok.injEq]

/-- A step whose faults are left unhandled never fails with a message. -/
theorem result_orAbort_ne_failed (unhandled : E → Unhandled) (x : Except E A) (message : String) :
    (orAbort unhandled x).result ≠ .error (.failed message) := by
  cases x with
  | error e => nofun
  | ok a => nofun

theorem result_report (events : List Event) : (report events).result = .ok () := rfl

/-- A notice passes if its markup can be shown. -/
theorem result_inform_eq_ok_iff {text : Text} {u : Unit} :
    (inform text).result = .ok u ↔ noticeFault? "i" text.shown = none := by
  rw [inform]
  cases noticeFault? "i" text.shown with
  | none => exact ⟨fun _ ↦ rfl, fun _ ↦ rfl⟩
  | some f => exact ⟨nofun, nofun⟩

theorem result_inform_ne_failed (text : Text) (message : String) :
    (inform text).result ≠ .error (.failed message) := by
  rw [inform]
  cases noticeFault? "i" text.shown with
  | none => nofun
  | some f => nofun

end Stage

open Stage

/-! ## The stages that the jobs share -/

/-- The catalog that a run with some settings fetches. -/
def fetched (settings : Settings) (network : Http.Network) : Except FetchFault (List Json) :=
  (fetch settings.credential settings.endpoint Fetch.defaultTimeout network).result

section Shared

variable {credential distributions endpoint : Option String} {env : Environment} {settings : Settings}
  {network : Http.Network} {least : Level} {message : String}

theorem result_settle_eq_ok_iff :
    (settle credential distributions env endpoint).result = .ok settings ↔
      Settings.load credential distributions env endpoint = .ok settings := by
  rw [settle]
  rcases Settings.load credential distributions env endpoint with (why | -) | loaded
  · exact ⟨nofun, nofun⟩
  · exact ⟨nofun, nofun⟩
  · rw [result_pure_eq_ok_iff, Except.ok.injEq]

theorem result_settle_eq_failed_iff :
    (settle credential distributions env endpoint).result = .error (.failed message) ↔
      ∃ why, Settings.load credential distributions env endpoint = .error (.misconfigured why) ∧
        why.message = message := by
  rw [settle]
  rcases Settings.load credential distributions env endpoint with (why | -) | loaded
  · constructor
    · rintro h
      injection h with h
      injection h with h
      exact ⟨why, rfl, h⟩
    · rintro ⟨why, h, rfl⟩
      injection h with h
      injection h with h
      rw [h]
      rfl
  · exact ⟨nofun, nofun⟩
  · exact ⟨nofun, nofun⟩

theorem result_download_eq_ok_iff {catalog : List Json} :
    (download least settings network).result = .ok catalog ↔ fetched settings network = .ok catalog := by
  rw [download, fetched]
  cases (fetch settings.credential settings.endpoint Fetch.defaultTimeout network).result with
  | error f => exact ⟨nofun, nofun⟩
  | ok entries => rw [Except.ok.injEq, Except.ok.injEq]

theorem result_download_eq_failed_iff :
    (download least settings network).result = .error (.failed message) ↔
      ∃ e, fetched settings network = .error (.transport e) ∧ e.message = message := by
  rw [download, fetched]
  rcases (fetch settings.credential settings.endpoint Fetch.defaultTimeout network).result with (e | b) | entries
  · constructor
    · intro h
      injection h with h
      injection h with h
      exact ⟨e, rfl, h⟩
    · rintro ⟨e', h, rfl⟩
      injection h with h
      injection h with h
      rw [h]
      rfl
  · exact ⟨nofun, nofun⟩
  · exact ⟨nofun, nofun⟩

theorem result_conclude_eq_ok_iff {review : Catalog.Review} {selections : List Catalog.Selection} :
    (conclude least review).result = .ok selections ↔ review.selections = .ok selections := by
  rw [conclude]
  cases review.selections with
  | error f => exact ⟨nofun, nofun⟩
  | ok selected => rw [Except.ok.injEq, Except.ok.injEq]

theorem result_conclude_eq_failed_iff {review : Catalog.Review} :
    (conclude least review).result = .error (.failed message) ↔
      ∃ f, review.selections = .error f ∧ f.message? = some message := by
  rw [conclude]
  cases review.selections with
  | error f =>
    simp only [Except.error.injEq, exists_eq_left', stopOfCatalog]
    cases f.message? with
    | none => exact ⟨nofun, nofun⟩
    | some m => rw [Stop.failed.injEq, Option.some.injEq]
  | ok selected => exact ⟨nofun, nofun⟩

end Shared

/-! ## The matrix job -/

namespace Matrix

/-- The settings that the matrix job loads. -/
def loaded (options : Options) (env : Environment) : Except Settings.Refusal Settings :=
  Settings.load (optionOrInput options.token tokenInput env)
    (optionOrInput options.distributions distributionsInput env) env options.endpoint

/-- What the matrix job tells the user before it fetches the catalog. -/
def announcement (settings : Settings) : Text :=
  .concat ("Distributions: " :: settings.distributions.names.intersperse ", ")

/-- The matrix job comes to selections: settings are loaded, a catalog is fetched under them, and the review of the
whole catalog ends with the selections. -/
structure Selects (options : Options) (env : Environment) (network : Http.Network) (settings : Settings)
    (catalog : List Json) (selections : List Catalog.Selection) : Prop where
  loaded : loaded options env = .ok settings
  announced : noticeFault? "i" (announcement settings).shown = none
  fetched : fetched settings network = .ok catalog
  compared : ∃ missing, Catalog.missing settings.distributions catalog = .ok missing
  selected : (Catalog.select settings.distributions catalog).selections = .ok selections

variable {options : Options} {verbose : Bool} {env : Environment} {network : Http.Network} {settings : Settings}
  {selections : List Catalog.Selection} {message : String}

theorem result_reportMissing (missing : List Text) : (reportMissing missing).result = .ok () := by
  rw [reportMissing]
  split
  · rfl
  · rfl

/-- What comes before the output is set comes to a result exactly if the job comes to selections. -/
theorem result_choose_eq_ok_iff :
    (choose options verbose env network).result = .ok selections ↔
      ∃ settings catalog, Selects options env network settings catalog selections := by
  simp only [choose, result_bind_eq_ok_iff, settle, result_settle_eq_ok_iff, result_inform_eq_ok_iff,
    result_download_eq_ok_iff, result_orAbort_eq_ok_iff, result_reportMissing, result_conclude_eq_ok_iff,
    result_pure_eq_ok_iff]
  constructor
  · rintro ⟨settings, hs, -, hn, catalog, hf, missing, hm, -, -, selections, hr, -, -, rfl⟩
    exact ⟨settings, catalog, hs, hn, hf, ⟨missing, hm⟩, hr⟩
  · rintro ⟨settings, catalog, hs, hn, hf, ⟨missing, hm⟩, hr⟩
    exact ⟨settings, hs, (), hn, catalog, hf, missing, hm, (), trivial, selections, hr, (), rfl, rfl⟩

end Matrix

/-! ## The versions job -/

namespace Versions

/-- The settings that the versions job loads. -/
def loaded (options : Options) (env : Environment) : Except Settings.Refusal Settings :=
  Settings.load (optionOrInput options.token tokenInput env)
    (some ((given? options.distributions).getD everything)) env options.endpoint

variable {options : Options} {latest : Bool} {env : Environment} {network : Http.Network} {message : String}

theorem result_restricted_ne_failed (allow : AllowList) (catalog : List Json) (message : String) :
    (restricted allow catalog).result ≠ .error (.failed message) := by
  rw [restricted]
  split
  · exact result_pure_ne_error _ _
  · exact result_orAbort_ne_failed _ _ _

theorem result_catalogText_ne_failed (format : Format) (catalog : List Json) (message : String) :
    (catalogText format catalog).result ≠ .error (.failed message) := by
  rw [catalogText.eq_def]
  cases format with
  | json => exact result_pure_ne_error _ _
  | table => exact result_orAbort_ne_failed _ _ _

/-- The catalog of a run that lists it: it is fetched, and the allow list lets its entries through. -/
theorem result_listed_eq_ok_iff {catalog : List Json} :
    (listed options env network).result = .ok catalog ↔
      ∃ settings entries, loaded options env = .ok settings ∧ fetched settings network = .ok entries ∧
        (restricted settings.distributions entries).result = .ok catalog := by
  simp only [listed, settle, result_bind_eq_ok_iff, result_settle_eq_ok_iff, result_download_eq_ok_iff]
  constructor
  · rintro ⟨settings, hs, entries, hf, hr⟩
    exact ⟨settings, entries, hs, hf, hr⟩
  · rintro ⟨settings, entries, hs, hf, hr⟩
    exact ⟨settings, hs, entries, hf, hr⟩

end Versions

/-! ## Failures with a message -/

/-- The job gets as far as loading its settings, fetching the catalog or selecting versions, and this fails with a
message. -/
inductive Fails (env : Environment) (network : Http.Network) : Job → String → Prop where
  | matrixSettings {options : Options} {verbose : Bool} {why : Misconfiguration}
      (load : Matrix.loaded options env = .error (.misconfigured why)) :
      Fails env network (.matrix options verbose) why.message
  | matrixFetch {options : Options} {verbose : Bool} {settings : Settings} {e : TransportError}
      (load : Matrix.loaded options env = .ok settings)
      (announced : noticeFault? "i" (Matrix.announcement settings).shown = none)
      (fetch : fetched settings network = .error (.transport e)) :
      Fails env network (.matrix options verbose) e.message
  | matrixSelect {options : Options} {verbose : Bool} {settings : Settings} {catalog : List Json}
      {missing : List Text} {f : Catalog.Fault} {message : String}
      (load : Matrix.loaded options env = .ok settings)
      (announced : noticeFault? "i" (Matrix.announcement settings).shown = none)
      (fetch : fetched settings network = .ok catalog)
      (compared : Catalog.missing settings.distributions catalog = .ok missing)
      (select : (Catalog.select settings.distributions catalog).selections = .error f)
      (malformed : f.message? = some message) :
      Fails env network (.matrix options verbose) message
  | versionsSettings {options : Options} {latest : Bool} {why : Misconfiguration}
      (load : Versions.loaded options env = .error (.misconfigured why)) :
      Fails env network (.versions options latest) why.message
  | versionsFetch {options : Options} {latest : Bool} {settings : Settings} {e : TransportError}
      (load : Versions.loaded options env = .ok settings)
      (fetch : fetched settings network = .error (.transport e)) :
      Fails env network (.versions options latest) e.message
  | versionsSelect {options : Options} {settings : Settings} {entries catalog names : List Json} {f : Catalog.Fault}
      {message : String} (load : Versions.loaded options env = .ok settings)
      (fetch : fetched settings network = .ok entries)
      (restrict : (Versions.restricted settings.distributions entries).result = .ok catalog)
      (named : Catalog.names catalog = .ok names)
      (select : (Catalog.selectAll catalog).selections = .error f) (malformed : f.message? = some message) :
      Fails env network (.versions options true) message

namespace Matrix

variable {options : Options} {verbose : Bool} {env : Environment} {network : Http.Network} {message : String}

/-- What comes before the output is set fails with a message exactly if the job fails with it. -/
theorem result_choose_eq_failed_iff :
    (choose options verbose env network).result = .error (.failed message) ↔
      Fails env network (.matrix options verbose) message := by
  simp only [choose, result_bind_eq_error_iff, settle, result_settle_eq_ok_iff, result_settle_eq_failed_iff,
    result_inform_eq_ok_iff, result_inform_ne_failed, result_download_eq_ok_iff, result_download_eq_failed_iff,
    result_orAbort_eq_ok_iff, result_orAbort_ne_failed, result_reportMissing, result_conclude_eq_failed_iff,
    result_report, result_pure_ne_error, reduceCtorEq, false_or, or_false, and_false, exists_false]
  constructor
  · rintro (⟨why, h, rfl⟩ | ⟨settings, hs, -, hn, ⟨e, he, rfl⟩ | ⟨catalog, hf, missing, hm, h⟩⟩)
    · exact .matrixSettings h
    · exact .matrixFetch hs hn he
    · obtain ⟨-, -, f, hr, hm'⟩ := h
      exact .matrixSelect hs hn hf hm hr hm'
  · rintro (⟨load⟩ | ⟨load, announced, fetch⟩ | ⟨load, announced, fetch, compared, select, malformed⟩)
    · exact .inl ⟨_, load, rfl⟩
    · exact .inr ⟨_, load, (), announced, .inl ⟨_, fetch, rfl⟩⟩
    · exact .inr ⟨_, load, (), announced, .inr ⟨_, fetch, _, compared, (), trivial, _, select, malformed⟩⟩

end Matrix

namespace Versions

variable {options : Options} {latest : Bool} {env : Environment} {network : Http.Network} {message : String}

theorem result_listed_eq_failed_iff :
    (listed options env network).result = .error (.failed message) ↔
      (∃ why, loaded options env = .error (.misconfigured why) ∧ why.message = message) ∨
        ∃ settings, loaded options env = .ok settings ∧
          ∃ e, fetched settings network = .error (.transport e) ∧ e.message = message := by
  simp only [listed, settle, result_bind_eq_error_iff, result_settle_eq_ok_iff, result_settle_eq_failed_iff,
    result_download_eq_failed_iff, result_restricted_ne_failed, and_false, exists_false, or_false]
  exact Iff.rfl

theorem result_latest_eq_failed_iff {catalog : List Json} :
    (Versions.latest catalog).result = .error (.failed message) ↔
      ∃ names f, Catalog.names catalog = .ok names ∧ (Catalog.selectAll catalog).selections = .error f ∧
        f.message? = some message := by
  simp only [Versions.latest, result_bind_eq_error_iff, result_orAbort_ne_failed, result_orAbort_eq_ok_iff,
    result_conclude_eq_failed_iff, false_or]
  constructor
  · rintro ⟨names, hn, f, hs, hm⟩
    exact ⟨names, f, hn, hs, hm⟩
  · rintro ⟨names, f, hn, hs, hm⟩
    exact ⟨names, hn, f, hs, hm⟩

/-- The format has no part in a failure with a message. -/
theorem result_latestText_eq_failed_iff {format : Format} {catalog : List Json} :
    (latestText format catalog).result = .error (.failed message) ↔
      (Versions.latest catalog).result = .error (.failed message) := by
  rw [latestText, result_bind_eq_error_iff]
  constructor
  · rintro (h | ⟨selections, -, h⟩)
    · exact h
    · cases format with
      | json => exact absurd h (result_pure_ne_error _ _)
      | table => exact absurd h (result_orAbort_ne_failed _ _ _)
  · exact .inl

/-- What the versions job prints fails with a message exactly if the job fails with it. -/
theorem result_text_eq_failed_iff :
    (text options latest env network).result = .error (.failed message) ↔
      Fails env network (.versions options latest) message := by
  rw [text, result_bind_eq_error_iff, result_listed_eq_failed_iff]
  constructor
  · rintro ((⟨why, h, rfl⟩ | ⟨settings, hs, e, he, rfl⟩) | ⟨catalog, hl, h⟩)
    · exact .versionsSettings h
    · exact .versionsFetch hs he
    · cases latest with
      | true =>
        obtain ⟨names, f, hn, hs, hm⟩ := result_latest_eq_failed_iff.1 (result_latestText_eq_failed_iff.1 h)
        obtain ⟨settings, entries, hload, hfetch, hrestrict⟩ := result_listed_eq_ok_iff.1 hl
        exact .versionsSelect hload hfetch hrestrict hn hs hm
      | false => exact absurd h (result_catalogText_ne_failed _ _ _)
  · rintro (_ | _ | _ | ⟨load⟩ | ⟨load, fetch⟩ |
      ⟨load, fetch, restrict, named, select, malformed⟩)
    · exact .inl (.inl ⟨_, load, rfl⟩)
    · exact .inl (.inr ⟨_, load, _, fetch, rfl⟩)
    · have hl : (listed options env network).result = .ok _ :=
        result_listed_eq_ok_iff.2 ⟨_, _, load, fetch, restrict⟩
      have hs := result_latest_eq_failed_iff.2 ⟨_, _, named, select, malformed⟩
      exact .inr ⟨_, hl, result_latestText_eq_failed_iff.2 hs⟩

end Versions

/-! ## A step of a workflow -/

/-- The environment of a step whose outputs go to a file. -/
def stepEnvironment : Environment := ⟨[("GITHUB_ACTIONS", "true"), ("GITHUB_OUTPUT", "/output")]⟩

/-- The disk of that step, where nothing is set yet. -/
def stepDisk : Workflow.Disk := ⟨"/output", some "", [], []⟩

/-- A network that answers with the catalog of one distribution and some versions. -/
def versionNetwork (versions : String) : Http.Network :=
  ⟨.response ⟨200, [],
    ("\x7b\"cluster-versions\": [\x7b\"short_name\": \"k3s\", \"versions\": " ++ versions ++ "\x7d]\x7d").toList.map
      fun c ↦ UInt8.ofNat c.toNat⟩, []⟩

end ClusterMatrix.Run

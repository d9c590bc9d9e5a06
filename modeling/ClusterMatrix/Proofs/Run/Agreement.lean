import ClusterMatrix.Proofs.Catalog.Provenance
import ClusterMatrix.Proofs.Catalog.Restrict
import ClusterMatrix.Proofs.Json.Printed
import ClusterMatrix.Proofs.Run.Output

/-!
# Two ways to the latest versions

The matrix job selects from the whole catalog under the allow list. The versions job restricts the catalog to the allow
list and selects from all that is left. Where the matrix job gets as far as fetching the catalog, the two jobs end
alike, and what they print decodes to the same selections.
-/

namespace ClusterMatrix

/-- The message of an error that the user is told. -/
def Event.error? : Event → Option String
  | .error message => some message
  | _ => none

namespace Run

open Workflow (Disk isActive)

/-! ## Ends of stages -/

namespace Stage

variable {A B E : Type} {x : Stage A} {k : A → Stage B} {sent : List Http.Request}

/-- A stage ends with a result and has sent some requests. It leaves it to the end of the run to tell the user an
error. -/
structure EndsWith (x : Stage A) (sent : List Http.Request) (result : Except Stop A) : Prop where
  requests : x.requests = sent
  result : x.result = result
  errors : x.events.filterMap Event.error? = []

/-- A stage that sends nothing and comes to a result leaves the end to the stage behind it. -/
theorem EndsWith.bind_of_silent {a : A} {result : Except Stop B} (hx : x.EndsWith [] (.ok a))
    (hk : (k a).EndsWith sent result) : (x >>= k).EndsWith sent result := by
  rw [bind_of_ok hx.result]
  refine ⟨?_, hk.result, ?_⟩
  · rw [hx.requests, hk.requests, List.nil_append]
  · rw [List.filterMap_append, hx.errors, hk.errors, List.append_nil]

theorem EndsWith.bind_error {s : Stop} (hx : x.EndsWith sent (.error s)) (k : A → Stage B) :
    (x >>= k).EndsWith sent (.error s) := by
  rw [bind_of_error hx.result]
  exact ⟨hx.requests, rfl, hx.errors⟩

/-- Behind a stage whose requests are all there are, only the results are joined. -/
theorem EndsWith.bind {result : Except Stop A} {after : A → Except Stop B} (hx : x.EndsWith sent result)
    (hk : ∀ a, result = .ok a → (k a).EndsWith [] (after a)) : (x >>= k).EndsWith sent (result >>= after) := by
  cases result with
  | error s => exact hx.bind_error k
  | ok a =>
    have hk := hk a rfl
    rw [bind_of_ok hx.result]
    refine ⟨?_, hk.result, ?_⟩
    · rw [hx.requests, hk.requests, List.append_nil]
    · rw [List.filterMap_append, hx.errors, hk.errors, List.append_nil]

theorem endsWith_pure (a : A) : (pure a : Stage A).EndsWith [] (.ok a) := ⟨rfl, rfl, rfl⟩

theorem endsWith_report_log (level : Level) (text : Text) :
    (report [.log level text]).EndsWith [] (.ok ()) := ⟨rfl, rfl, rfl⟩

theorem endsWith_orAbort (unhandled : E → Unhandled) (e : Except E A) :
    (orAbort unhandled e).EndsWith [] (e.mapError fun f ↦ .unhandled (unhandled f)) := by
  cases e with
  | error f => exact ⟨rfl, rfl, rfl⟩
  | ok a => exact ⟨rfl, rfl, rfl⟩

theorem requests_inform (text : Text) : (inform text).requests = [] := by
  rw [inform]
  split <;> rfl

theorem endsWith_inform {text : Text} (h : noticeFault? "i" text.shown = none) :
    (inform text).EndsWith [] (.ok ()) := by
  rw [inform, h]
  exact ⟨rfl, rfl, rfl⟩

end Stage

open Stage

variable {settings : Settings} {network : Http.Network} {env : Environment}

theorem requests_settle (credential distributions : Option String) (env : Environment) (endpoint : Option String) :
    (settle credential distributions env endpoint).requests = [] := by
  rw [settle]
  split <;> rfl

theorem endsWith_settle {credential distributions endpoint : Option String}
    (h : Settings.load credential distributions env endpoint = .ok settings) :
    (settle credential distributions env endpoint).EndsWith [] (.ok settings) := by
  rw [settle, h]
  exact endsWith_pure settings

/-- A fetch and a review only write to the log, whatever is kept of it. -/
theorem errors_of_logs {events : List Event} (h : ∀ e ∈ events, e.error? = none) (least : Level) :
    (events.filter (Event.passes least)).filterMap Event.error? = [] := by
  rw [List.filterMap_eq_nil_iff]
  intro e he
  exact h e (List.mem_of_mem_filter he)

/-- The requests of a run with some settings. -/
def sent (settings : Settings) (network : Http.Network) : List Http.Request :=
  (fetch settings.credential settings.endpoint Fetch.defaultTimeout network).requests

theorem endsWith_download (least : Level) (settings : Settings) (network : Http.Network) :
    (download least settings network).EndsWith (sent settings network)
      ((fetched settings network).mapError stopOfFault) := by
  refine ⟨rfl, ?_, errors_of_logs ?_ least⟩
  · rw [download, fetched]
    cases (fetch settings.credential settings.endpoint Fetch.defaultTimeout network).result with
    | error f => rfl
    | ok catalog => rfl
  · unfold fetch
    dsimp only
    split
    · simp [Event.error?]
    · split
      · simp [Event.error?]
      · simp [Event.error?]

theorem endsWith_conclude (least : Level) (review : Catalog.Review) :
    (conclude least review).EndsWith [] (review.selections.mapError stopOfCatalog) := by
  refine ⟨rfl, ?_, errors_of_logs ?_ least⟩
  · rw [conclude]
    cases review.selections with
    | error f => rfl
    | ok selections => rfl
  · intro e he
    obtain ⟨v, -, hv⟩ := List.mem_filterMap.1 he
    cases v <;> cases hv <;> rfl

/-! ## The jobs -/

/-- What both jobs come to: the selections of the fetched catalog under the allow list, or why there are none. -/
def selected (settings : Settings) (network : Http.Network) : Except Stop (List Catalog.Selection) := do
  let catalog ← (fetched settings network).mapError stopOfFault
  let _ ← (Catalog.names catalog).mapError fun f ↦ .unhandled (.catalog f)
  (Catalog.select settings.distributions catalog).selections.mapError stopOfCatalog

namespace Matrix

/-- The matrix job gets as far as fetching the catalog. -/
structure Fetches (options : Options) (env : Environment) (settings : Settings) : Prop where
  loaded : loaded options env = .ok settings
  announced : noticeFault? "i" (announcement settings).shown = none

/-- Only a run that gets as far as fetching the catalog sends requests. -/
theorem exists_fetches_of_requests {options : Options} {verbose : Bool}
    (h : (choose options verbose env network).requests ≠ []) : ∃ settings, Fetches options env settings := by
  rw [choose] at h
  cases hs : (settle options env).result with
  | error s =>
    rw [bind_of_error hs] at h
    exact absurd (requests_settle _ _ env _) h
  | ok settings =>
    rw [bind_of_ok hs] at h
    change (settle options env).requests ++ (inform (announcement settings) >>= _).requests ≠ [] at h
    cases hi : (inform (announcement settings)).result with
    | error s =>
      rw [settle, requests_settle, List.nil_append, bind_of_error hi] at h
      exact absurd (requests_inform _) h
    | ok u => exact ⟨settings, result_settle_eq_ok_iff.1 hs, result_inform_eq_ok_iff.1 hi⟩

theorem endsWith_reportMissing (missing : List Text) : (reportMissing missing).EndsWith [] (.ok ()) := by
  rw [reportMissing]
  split
  · exact endsWith_pure ()
  · exact endsWith_report_log _ _

/-- What is behind the selection neither sends requests nor stops the job. -/
theorem endsWith_choose {options : Options} (h : Fetches options env settings) (verbose : Bool)
    (network : Http.Network) :
    (choose options verbose env network).EndsWith (sent settings network) (selected settings network) := by
  refine (endsWith_settle h.loaded).bind_of_silent ((endsWith_inform h.announced).bind_of_silent ?_)
  refine (endsWith_download _ settings network).bind fun catalog _ ↦ ?_
  have hmissing := endsWith_orAbort .catalog (Catalog.missing settings.distributions catalog)
  rw [Catalog.missing] at hmissing ⊢
  cases hn : Catalog.names catalog with
  | error f =>
    rw [hn] at hmissing
    exact hmissing.bind_error _
  | ok listed =>
    rw [hn] at hmissing
    refine hmissing.bind_of_silent ((endsWith_reportMissing _).bind_of_silent ?_)
    change EndsWith _ [] ((Catalog.select settings.distributions catalog).selections.mapError stopOfCatalog)
    rw [← bind_pure (Except.mapError _ _)]
    refine (endsWith_conclude _ _).bind fun selections _ ↦ ?_
    exact (endsWith_report_log _ _).bind_of_silent (endsWith_pure selections)

end Matrix

namespace Versions

variable {options : Options}

/-- The catalog of a run that restricts it. -/
theorem endsWith_restricted {allow : AllowList} (h : allow.isEmpty = false) (catalog : List Json) :
    (restricted allow catalog).EndsWith []
      ((Catalog.restrict allow catalog).mapError fun f ↦ .unhandled (.catalog f)) := by
  rw [restricted, h, if_neg Bool.false_ne_true]
  exact endsWith_orAbort .catalog _

/-- The kept entries have names, so only their review can stop this stage. -/
theorem endsWith_latest {allow : AllowList} {catalog kept : List Json} (h : Catalog.restrict allow catalog = .ok kept) :
    (latest kept).EndsWith [] ((Catalog.select allow catalog).selections.mapError stopOfCatalog) := by
  obtain ⟨listed, hl⟩ := Catalog.exists_names_of_restrict h
  rw [latest, hl, ← Catalog.selections_selectAll_of_restrict h]
  exact (endsWith_pure listed).bind_of_silent (endsWith_conclude .info _)

/-- The text of selections, as this job prints them. -/
def selectionsListing (selections : List Catalog.Selection) : List Nat :=
  listing (selections.map Catalog.Selection.toJson)

theorem endsWith_latestText {allow : AllowList} {catalog kept : List Json}
    (h : Catalog.restrict allow catalog = .ok kept) :
    (latestText .json kept).EndsWith []
      (selectionsListing <$> (Catalog.select allow catalog).selections.mapError stopOfCatalog) := by
  rw [map_eq_pure_bind]
  exact (endsWith_latest h).bind fun selections _ ↦ endsWith_pure _

/-- The restriction stops where the comparison of the matrix job does, and the review of what is kept where its review
of the whole catalog does. -/
theorem endsWith_text (hload : loaded options env = .ok settings) (hallow : settings.distributions.isEmpty = false)
    (hformat : options.format = .json) (network : Http.Network) :
    (text options true env network).EndsWith (sent settings network)
      (selectionsListing <$> selected settings network) := by
  rw [text, listed, bind_assoc, hformat, selected, map_bind]
  refine (endsWith_settle hload).bind_of_silent ?_
  rw [bind_assoc]
  refine (endsWith_download .info settings network).bind fun catalog _ ↦ ?_
  have hrestricted := endsWith_restricted hallow catalog
  cases hn : Catalog.names catalog with
  | error f =>
    rw [Catalog.restrict_eq_error_iff.2 hn] at hrestricted
    exact hrestricted.bind_error _
  | ok listed =>
    have hkept : Catalog.restrict settings.distributions catalog = .ok _ :=
      Catalog.restrict_eq_ok_iff.2 ⟨⟨listed, hn⟩, rfl⟩
    rw [hkept] at hrestricted
    exact hrestricted.bind_of_silent (endsWith_latestText hkept)

end Versions

/-! ## The catalog and what is printed of it -/

theorem isReadable_of_json {r : Http.Response} {v : Json} (h : r.json = .ok v) : v.Each Json.IsReadable := by
  have hparse : ∀ {text : List Char}, (Json.parse text).mapError Http.ContentFault.json = .ok v →
      v.Each Json.IsReadable := by
    intro text h
    cases hp : Json.parse text with
    | error e =>
      rw [hp] at h
      cases h
    | ok w =>
      rw [hp] at h
      cases h
      exact Json.isReadable_of_parse hp
  unfold Http.Response.json at h
  dsimp only at h
  split at h
  · exact hparse h
  · exact hparse h
  · cases h

theorem isReadable_of_catalogOf {r : Http.Response} {catalog : List Json} (h : Fetch.catalogOf r = .ok catalog) :
    ∀ e ∈ catalog, e.Each Json.IsReadable := by
  unfold Fetch.catalogOf at h
  split at h
  · cases h
  · split at h
    · cases h
    · rename_i payload hp
      split at h
      · rename_i hget
        cases h
        have hcatalog := Catalog.each_of_field (isReadable_of_json hp) (Catalog.field_of_get? hget)
        exact fun e he ↦ hcatalog.item he
      · cases h

/-- A fetched catalog was read, so it can be read again. -/
theorem isReadable_of_fetched {catalog : List Json} (h : fetched settings network = .ok catalog) :
    ∀ e ∈ catalog, e.Each Json.IsReadable := by
  unfold fetched fetch at h
  dsimp only at h
  split at h
  · cases h
  · split at h
    · cases h
    · rename_i hc
      cases h
      exact isReadable_of_catalogOf hc

/-- Both printed texts of selections decode to them. -/
theorem decodes_printed {wanted : Json → Bool} {catalog : List Json} {selections : List Catalog.Selection}
    (hf : ∀ e ∈ catalog, e.Each Json.IsFloatFree) (hr : ∀ e ∈ catalog, e.Each Json.IsReadable)
    (h : (Catalog.review wanted catalog).selections = .ok selections) :
    Json.Decodes (Text.codesOf (selectionsText selections ++ ['\n']))
        (.arr (selections.map Catalog.Selection.toJson)) ∧
      Json.Decodes (Versions.selectionsListing selections) (.arr (selections.map Catalog.Selection.toJson)) := by
  have hff := Catalog.isFloatFree_selections hf h
  have hrr := Catalog.isReadable_selections hr h
  exact ⟨Json.decodes_compact hff hrr, Json.decodes_indented hff hrr⟩

/-! ## Whole runs -/

namespace Outcome

/-- The errors that the user is told. -/
def errors (o : Outcome) : List String := o.events.filterMap Event.error?

/-- Two runs end alike: with the same exit code, after the same requests, with the same errors, and with the same fault
if one is left unhandled. -/
structure EndsLike (o o' : Outcome) : Prop where
  exitCode : o.exitCode = o'.exitCode
  requests : o.requests = o'.requests
  errors : o.errors = o'.errors
  unhandled : o.unhandled = o'.unhandled

/-- Stages that stop alike make runs that end alike. -/
theorem endsLike_stopped {A B : Type} {x : Stage A} {y : Stage B} {requests : List Http.Request} {s : Stop}
    (hx : x.EndsWith requests (.error s)) (hy : y.EndsWith requests (.error s)) (env : Environment) (disk : Disk) :
    (stopped x s env disk).EndsLike (stopped y s env disk) := by
  have hsent : x.requests = y.requests := hx.requests.trans hy.requests.symm
  cases s with
  | unhandled u => exact ⟨rfl, hsent, hx.errors.trans hy.errors.symm, rfl⟩
  | failed message =>
    have htold : (x.events ++ [Event.error message]).filterMap Event.error? =
        (y.events ++ [Event.error message]).filterMap Event.error? := by
      rw [List.filterMap_append, List.filterMap_append, hx.errors, hy.errors]
    rw [stopped, stopped]
    cases noticeFault? "Error:" message with
    | none => exact ⟨rfl, hsent, htold, rfl⟩
    | some f => exact ⟨rfl, hsent, htold, rfl⟩

/-- A run of the matrix job and a run of the versions job agree: they end alike, and if both succeed on a catalog
without floats, what they print decodes to the same selections. The two ways to them agree on every catalog. -/
structure Agrees (settings : Settings) (network : Http.Network) (o o' : Outcome) : Prop extends o.EndsLike o' where
  decoded : ∀ catalog, fetched settings network = .ok catalog → (∀ e ∈ catalog, e.Each Json.IsFloatFree) →
    o.exitCode = 0 → o'.exitCode = 0 → ∃ selections,
      (Catalog.select settings.distributions catalog).selections = .ok selections ∧
        Json.Decodes o.printed (.arr (selections.map Catalog.Selection.toJson)) ∧
          Json.Decodes o'.printed (.arr (selections.map Catalog.Selection.toJson))
  selected : ∀ catalog, fetched settings network = .ok catalog → Catalog.SameSelections settings.distributions catalog

end Outcome

/-- With distributions given, both jobs load the same settings. -/
theorem Versions.loaded_eq {options : Options} {text : String} (h : given? options.distributions = some text)
    (env : Environment) : Versions.loaded options env = Matrix.loaded options env := by
  rw [Versions.loaded, Matrix.loaded, optionOrInput, optionOrInput, h]
  rfl

/-- One distribution is included. -/
def includeOptions : Options := ⟨some "t", some "[\"k3s\"]", none, .json⟩

def includeSettings : Settings := ⟨"t", .ofList ["k3s"], Settings.defaultEndpoint⟩

theorem fetches_includeOptions : Matrix.Fetches includeOptions ⟨[]⟩ includeSettings := by
  refine ⟨?_, ?_⟩
  · decide +kernel
  · decide +kernel

/-- The first half of a character, without the second one. -/
def loneHalf : Text.Ragged := ⟨[0xD800], by decide⟩

/-- One distribution, whose only version is half of a character. -/
def includeCatalog : List Json := [.obj [("short_name", .str "k3s"), ("versions", .arr [.ragged loneHalf])]]

def includeNetwork : Http.Network := versionNetwork "[\"\\ud800\"]"

theorem isFloatFree_includeCatalog : ∀ e ∈ includeCatalog, e.Each Json.IsFloatFree := by decide +kernel

end Run

end ClusterMatrix

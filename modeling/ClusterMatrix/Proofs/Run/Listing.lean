import ClusterMatrix.Proofs.Run.Agreement

/-!
# What the versions job lists

Without `--latest` the versions job prints the catalog as it was fetched, but for the entries that a given allow list
leaves out. What it prints decodes to the entries that are left, each of them as it was.
-/

namespace ClusterMatrix

namespace Catalog

variable {allow : AllowList} {catalog entries : List Json}

/-! ## Entries that are left -/

/-- One of the allowed texts is the name of the entry. -/
def isNamed (allow : AllowList) (e : Json) : Bool :=
  allow.names.any fun n ↦ e.get? "short_name" = some (.ofText n)

/-- The entries of a catalog that an allow list leaves. An empty list leaves all of them. -/
def remaining (allow : AllowList) (catalog : List Json) : List Json :=
  if allow.isEmpty then catalog else catalog.filter (isNamed allow)

/-- Every entry of the catalog has a name. -/
def AllNamed (catalog : List Json) : Prop := ∀ e ∈ catalog, ∃ n, name e = .ok n

theorem isNamed_iff {e : Json} : isNamed allow e = true ↔ ∃ n ∈ allow, e.get? "short_name" = some (.ofText n) := by
  simp only [isNamed, List.any_eq_true, decide_eq_true_iff, AllowList.mem_iff]

/-- A text is the name of an entry just if it stands in the field for it. -/
theorem name_eq_ok_ofText_iff {e : Json} {n : Text} :
    name e = .ok (.ofText n) ↔ e.get? "short_name" = some (.ofText n) := by
  rw [name]
  constructor
  · intro h
    split at h
    · rename_i v hv
      split at h
      · cases h
        exact get?_of_field hv
      · cases h
    · cases h
  · intro h
    rw [field_of_get? h]
    cases n <;> rfl

/-- A restriction keeps the entries whose name is an allowed text. -/
theorem isKept_eq_isNamed (allow : AllowList) : isKept allow = isNamed allow := by
  funext e
  rw [Bool.eq_iff_iff, isNamed_iff, isKept]
  simp only [← name_eq_ok_ofText_iff]
  cases name e with
  | error f => simp
  | ok n => simp [admits_iff]

theorem allNamed_iff : AllNamed catalog ↔ ∃ listed, names catalog = .ok listed := by
  constructor
  · exact exists_names_of_forall
  · rintro ⟨listed, h⟩ e he
    obtain ⟨n, -, hn⟩ := exists_name_of_names h e he
    exact ⟨n, hn⟩

/-- What is left of a catalog are entries of it. -/
theorem remaining_sublist (allow : AllowList) (catalog : List Json) : (remaining allow catalog).Sublist catalog := by
  rw [remaining]
  split
  · exact List.Sublist.refl catalog
  · exact List.filter_sublist

end Catalog

namespace Run

open Workflow (Disk)

variable {settings : Settings} {network : Http.Network} {env : Environment}

/-! ## Stages -/

namespace Versions

variable {options : Options} {allow : AllowList} {catalog entries : List Json}

/-- An allow list that is not empty asks for the names of all entries. -/
theorem result_restricted_eq_ok_iff :
    (restricted allow catalog).result = .ok entries ↔
      (allow.isEmpty = true ∨ Catalog.AllNamed catalog) ∧ entries = Catalog.remaining allow catalog := by
  rw [restricted, Catalog.remaining]
  cases allow.isEmpty with
  | true =>
    rw [if_pos rfl, if_pos rfl, Stage.result_pure_eq_ok_iff]
    exact ⟨fun h ↦ ⟨.inl rfl, h.symm⟩, fun h ↦ h.2.symm⟩
  | false =>
    rw [if_neg Bool.false_ne_true, if_neg Bool.false_ne_true, Stage.result_orAbort_eq_ok_iff,
      Catalog.restrict_eq_ok_iff, ← Catalog.allNamed_iff, Catalog.isKept_eq_isNamed]
    exact ⟨fun h ↦ ⟨.inr h.1, h.2.symm⟩, fun h ↦ ⟨h.1.resolve_left Bool.false_ne_true, h.2.symm⟩⟩

/-- The run prints the entries that are left, and only the restriction can stop it. -/
theorem result_text_eq_ok_iff {text : List Nat} (hformat : options.format = .json)
    (hload : loaded options env = .ok settings) (hfetch : fetched settings network = .ok catalog) :
    (Versions.text options false env network).result = .ok text ↔
      (settings.distributions.isEmpty = true ∨ Catalog.AllNamed catalog) ∧
        text = listing (Catalog.remaining settings.distributions catalog) := by
  rw [Versions.text, hformat, Stage.result_bind_eq_ok_iff]
  constructor
  · rintro ⟨entries, hl, ht⟩
    obtain ⟨s, c, hs, hc, hr⟩ := result_listed_eq_ok_iff.1 hl
    obtain rfl := Except.ok.inj (hload.symm.trans hs)
    obtain rfl := Except.ok.inj (hfetch.symm.trans hc)
    obtain ⟨hnamed, rfl⟩ := result_restricted_eq_ok_iff.1 hr
    exact ⟨hnamed, (Stage.result_pure_eq_ok_iff.1 ht).symm⟩
  · rintro ⟨hnamed, rfl⟩
    refine ⟨Catalog.remaining settings.distributions catalog, ?_, rfl⟩
    exact result_listed_eq_ok_iff.2 ⟨settings, catalog, hload, hfetch, result_restricted_eq_ok_iff.2 ⟨hnamed, rfl⟩⟩

end Versions

/-! ## Whole runs -/

/-- A run lists a catalog under an allow list. It succeeds if the list is empty, or else if all entries have names. Then
it prints what the one-line text of the entries that are left is read as. No half of a character stands in this, and it
decodes to these entries. -/
structure Outcome.Lists (o : Outcome) (allow : AllowList) (catalog : List Json) : Prop where
  exitCode : o.exitCode = 0 ↔ allow.isEmpty = true ∨ Catalog.AllNamed catalog
  printed : o.exitCode = 0 → ∃ v, Json.parse (Json.arr (Catalog.remaining allow catalog)).compact = .ok v ∧
    o.printed = v.indented 0 ++ Text.codesOf ['\n']
  whole : o.exitCode = 0 → o.printed = Text.codesOf o.stdout
  decoded : o.exitCode = 0 → Json.parse o.stdout = .ok (.arr (Catalog.remaining allow catalog))

/-- The listing of exact values consists of characters, and is read as the values. -/
theorem exists_codesOf_listing {values : List Json} (hx : (Json.arr values).Each Json.IsExact)
    (hr : (Json.arr values).Each Json.IsReadable) :
    ∃ s, Text.codesOf s = listing values ∧ Json.parse s = .ok (.arr values) := by
  obtain ⟨s, hs⟩ := Text.isJoined_areWhole.before (Json.areWhole_indented 0 hx) '\n' []
  obtain ⟨text, htext, hdecode⟩ := Json.decodes_indented (hx.mono Json.isFloatFree_of_isExact) hr
  refine ⟨s, hs, ?_⟩
  rwa [Json.decode, htext, ← hs, Json.escaped_codesOf] at hdecode

/-- Printed as JSON, a catalog without floats and halves of characters comes out as it was fetched. -/
theorem lists_run {options : Options} {catalog : List Json} (hformat : options.format = .json)
    (hload : Versions.loaded options env = .ok settings) (hfetch : fetched settings network = .ok catalog)
    (hexact : ∀ e ∈ catalog, e.Each Json.IsExact) (disk : Disk) (id : String) :
    (Job.run env network disk id (.versions options false)).Lists settings.distributions catalog := by
  have htext : ∀ {text : List Nat}, (Versions.text options false env network).result = .ok text ↔ _ :=
    Versions.result_text_eq_ok_iff hformat hload hfetch
  have hleft := Catalog.remaining_sublist settings.distributions catalog
  have hx := Json.Each.arr_iff.2 ⟨trivial, fun e he ↦ hexact e (hleft.subset he)⟩
  have hr := Json.Each.arr_iff.2 ⟨trivial, fun e he ↦ isReadable_of_fetched hfetch e (hleft.subset he)⟩
  have hcompact := Json.parse_compact (hx.mono Json.isFloatFree_of_isExact) hr
  rw [Job.run, Versions.run]
  cases h : (Versions.text options false env network).result with
  | error s =>
    have hexit := Outcome.exitCode_stopped (Versions.text options false env network) s env disk
    have hfails : (Outcome.stopped (Versions.text options false env network) s env disk).exitCode ≠ 0 := by
      rw [hexit]
      exact Nat.one_ne_zero
    refine ⟨⟨fun h0 ↦ absurd h0 hfails, fun hnamed ↦ ?_⟩, fun h0 ↦ absurd h0 hfails, fun h0 ↦ absurd h0 hfails,
      fun h0 ↦ absurd h0 hfails⟩
    rw [htext.2 ⟨hnamed, rfl⟩] at h
    cases h
  | ok text =>
    obtain ⟨hnamed, rfl⟩ := htext.1 h
    obtain ⟨lines, hlines, hparse⟩ := exists_codesOf_listing hx hr
    rw [← hlines]
    have hstdout := Text.map_shownCode_codesOf lines
    refine ⟨⟨fun _ ↦ hnamed, fun _ ↦ rfl⟩, fun _ ↦ ⟨_, hcompact, hlines⟩, fun _ ↦ ?_, fun _ ↦ ?_⟩
    · exact congrArg Text.codesOf hstdout.symm
    · exact (congrArg Json.parse hstdout).trans hparse

/-- A network that answers with two entries, of which the second one holds nested values. -/
def nestedNetwork : Http.Network :=
  ⟨.response ⟨200, [],
    ("\x7b\"cluster-versions\": [\x7b\"short_name\": \"eks\"\x7d, " ++
      "\x7b\"nodes\": [\x7b\x7d, [[], 12, \"\\ud83d\\ude00\"]], \"short_name\": \"k3s\"\x7d]\x7d").toList.map
        fun c ↦ UInt8.ofNat c.toNat⟩, []⟩

/-- The second one of these entries. -/
def nestedEntry : Json :=
  .obj [("nodes", .arr [.obj [], .arr [.arr [], .int 12, .str "😀"]]), ("short_name", .str "k3s")]

def nestedCatalog : List Json := [.obj [("short_name", .str "eks")], nestedEntry]

theorem isExact_nestedCatalog : ∀ e ∈ nestedCatalog, e.Each Json.IsExact := by
  simp [nestedCatalog, nestedEntry, Json.IsExact]

/-- The nested values of the allowed entry come out of the run as they are. -/
theorem lists_run_nestedCatalog :
    fetched includeSettings nestedNetwork = .ok nestedCatalog ∧ (∀ e ∈ nestedCatalog, e.Each Json.IsExact) ∧
      Catalog.remaining includeSettings.distributions nestedCatalog = [nestedEntry] ∧
      (Job.run ⟨[]⟩ nestedNetwork stepDisk "1" (.versions includeOptions false)).exitCode = 0 ∧
      (Job.run ⟨[]⟩ nestedNetwork stepDisk "1" (.versions includeOptions false)).Lists includeSettings.distributions
        nestedCatalog := by
  have hfetch : fetched includeSettings nestedNetwork = .ok nestedCatalog := by decide +kernel
  refine ⟨hfetch, isExact_nestedCatalog, by decide +kernel, by decide +kernel, ?_⟩
  exact lists_run rfl fetches_includeOptions.loaded hfetch isExact_nestedCatalog stepDisk "1"

end Run

end ClusterMatrix

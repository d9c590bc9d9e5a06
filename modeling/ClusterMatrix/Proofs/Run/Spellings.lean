import ClusterMatrix.Proofs.Json.Printed
import ClusterMatrix.Proofs.Options.Distributions
import ClusterMatrix.Proofs.Settings.Distributions
import ClusterMatrix.Run.Job

/-!
# Ways to write the distributions

The distributions are a set, given as the text of a JSON array. The names in it may stand in any order and come several
times, their characters may be escaped in any way, and blanks may stand between the tokens. The text is read as the set
of its names, and this set is all that a run sees of it.
-/

namespace ClusterMatrix

open Json (IsBlank Spells)

namespace Settings

variable {names others : List String} {text text' : String} {vs : List Json} {t : List Char}

/-- The array of some names. -/
def arrayOf (names : List String) : Json := .arr (names.map .str)

/-- The text is one of the array of the names, with blanks before and behind. -/
def Writes (names : List String) (text : String) : Prop :=
  ∃ w t w', IsBlank w ∧ Spells (arrayOf names) t ∧ IsBlank w' ∧ text.toList = w ++ (t ++ w')

/-- A text of an array needs no blanks around it. -/
theorem writes_ofList (h : Spells (arrayOf names) t) : Writes names (String.ofList t) := by
  refine ⟨[], t, [], Json.isBlank_nil, h, Json.isBlank_nil, ?_⟩
  rw [String.toList_ofList, List.nil_append, List.append_nil]

theorem each_arrayOf {p : Json → Prop} (harr : ∀ vs, p (.arr vs)) (hstr : ∀ s, p (.str s)) (names : List String) :
    (arrayOf names).Each p := by
  refine .arr (harr _) fun v hv ↦ ?_
  obtain ⟨s, -, rfl⟩ := List.mem_map.1 hv
  exact Json.Each.str_iff.2 (hstr s)

/-- The array on one line, with all beyond ASCII escaped. -/
theorem writes_compact (names : List String) : Writes names (String.ofList (arrayOf names).compact) :=
  writes_ofList (Json.spells_compact (each_arrayOf (fun _ ↦ trivial) (fun _ ↦ trivial) names))

/-- The array on several lines, with nothing escaped but what has to be. No half of a character stands in it. -/
theorem exists_writes_indented (names : List String) (depth : Nat) :
    ∃ text, Writes names text ∧ Text.codes text = (arrayOf names).indented depth := by
  have hx : (arrayOf names).Each Json.IsExact := each_arrayOf (fun _ ↦ trivial) (fun _ ↦ trivial) names
  have hspells := Json.spells_indented depth (hx.mono Json.isFloatFree_of_isExact)
  obtain ⟨s, hs⟩ := Json.areWhole_indented depth hx
  rw [← hs, Json.escaped_codesOf] at hspells
  refine ⟨String.ofList s, writes_ofList hspells, ?_⟩
  rw [← hs, Text.codes, String.toList_ofList]

/-! ## Reading -/

theorem map_ofText_whole (names : List String) : (names.map Text.whole).map Json.ofText = names.map .str := by
  rw [List.map_map]
  rfl

theorem Writes.parse_eq (h : Writes names text) : Json.parse text.toList = .ok (arrayOf names) := by
  obtain ⟨w, t, w', hw, ht, hw', heq⟩ := h
  rw [heq]
  exact Json.parse_of_spells hw ht hw' (each_arrayOf (fun _ ↦ trivial) (fun _ ↦ trivial) names)

theorem Writes.ne_empty (h : Writes names text) : text ≠ "" := ne_empty_of_isDocument (Json.parse_eq_ok_iff.1 h.parse_eq)

/-- However the names are written, their set is read. -/
theorem Writes.parseDistributions_eq (h : Writes names text) :
    parseDistributions (some text) = .ok (AllowList.ofList (names.map .whole)) := by
  have hdoc := Json.parse_eq_ok_iff.1 h.parse_eq
  rw [arrayOf, ← map_ofText_whole] at hdoc
  rw [parseDistributions, given?_of_ne_empty h.ne_empty]
  exact namesOf_of_texts hdoc

theorem head?_of_spells_arr (h : Spells (.arr vs) t) : t.head? = some '[' := by
  cases h with
  | emptyArr hw => rfl
  | arr hw hv hvs => rfl

/-- The text of an array begins with a blank or a bracket, so it is not taken for an option. -/
theorem Writes.isOption_eq (h : Writes names text) : Options.isOption text.toList = false := by
  obtain ⟨w, t, w', hw, ht, -, heq⟩ := h
  have hhead : text.toList.head? ≠ some '-' := by
    rw [heq]
    cases w with
    | nil =>
      rw [List.nil_append, List.head?_append, head?_of_spells_arr ht, Option.some_or]
      decide
    | cons c w =>
      have hc := hw c List.mem_cons_self
      rw [List.cons_append, List.head?_cons, Ne, Option.some.injEq]
      rintro rfl
      exact absurd hc (by decide)
  rw [Options.isOption, decide_eq_false hhead, Bool.false_and]

/-- Lists of the same names are one allow list. -/
theorem ofList_eq_of_mem_iff (h : ∀ s, s ∈ names ↔ s ∈ others) :
    AllowList.ofList (names.map .whole) = AllowList.ofList (others.map .whole) := by
  ext x
  simp only [AllowList.mem_ofList, List.mem_map, h]

end Settings

namespace Run

open Settings (Writes parseDistributions)

variable {names others : List String} {text text' : String}

/-! ## Runs -/

theorem load_congr {distributions distributions' : Option String}
    (h : parseDistributions distributions = parseDistributions distributions') (credential : Option String)
    (env : Environment) (endpoint : Option String) :
    Settings.load credential distributions env endpoint = Settings.load credential distributions' env endpoint := by
  rw [Settings.load, Settings.load, h]

/-- A text that is given comes before the input of the step. -/
theorem optionOrInput_of_ne_empty (h : text ≠ "") (input : String) (env : Environment) :
    optionOrInput (some text) input env = some text := by
  rw [optionOrInput, Settings.given?_of_ne_empty h, Option.some_or]

/-- Of the text for the distributions, a run sees what it is read as. -/
theorem run_including_congr (ht : text ≠ "") (ht' : text' ≠ "")
    (h : parseDistributions (some text) = parseDistributions (some text')) (job : Job) (env : Environment)
    (network : Http.Network) (disk : Workflow.Disk) (id : String) :
    (job.including text).run env network disk id = (job.including text').run env network disk id := by
  cases job with
  | matrix options verbose =>
    have hsettle : Matrix.settle { options with distributions := some text } env =
        Matrix.settle { options with distributions := some text' } env := by
      rw [Matrix.settle, Matrix.settle, optionOrInput_of_ne_empty ht, optionOrInput_of_ne_empty ht', settle, settle,
        load_congr h]
    simp only [Job.including, Job.run, Matrix.run, Matrix.choose, hsettle]
  | versions options latest =>
    have hsettle : Versions.settle { options with distributions := some text } env =
        Versions.settle { options with distributions := some text' } env := by
      rw [Versions.settle, Versions.settle, Settings.given?_of_ne_empty ht, Settings.given?_of_ne_empty ht',
        Option.getD_some, Option.getD_some, settle, settle, load_congr h]
    simp only [Job.including, Job.run, Versions.run, Versions.text, Versions.listed, hsettle]

/-- Texts of the same names are alike to a run. -/
theorem run_including_eq_of_writes (h : Writes names text) (h' : Writes others text') (hmem : ∀ s, s ∈ names ↔ s ∈ others)
    (job : Job) (env : Environment) (network : Http.Network) (disk : Workflow.Disk) (id : String) :
    (job.including text).run env network disk id = (job.including text').run env network disk id := by
  apply run_including_congr h.ne_empty h'.ne_empty
  rw [h.parseDistributions_eq, h'.parseDistributions_eq, Settings.ofList_eq_of_mem_iff hmem]

/-- The same of a command line, wherever the option stands in it. -/
theorem run_congr (hopt : Options.isOption text.toList = false) (hopt' : Options.isOption text'.toList = false)
    (h : ∀ job : Job, ∀ env network disk id,
      (job.including text).run env network disk id = (job.including text').run env network disk id)
    (before behind : List String) (env : Environment) (network : Http.Network) (disk : Workflow.Disk) (id : String) :
    run (before ++ Options.distributionsOption :: text :: behind) env network disk id =
      run (before ++ Options.distributionsOption :: text' :: behind) env network disk id := by
  obtain ⟨p, hp, hp'⟩ := Options.exists_ofArguments?_eq hopt hopt' before behind
  rw [run, run, hp, hp']
  cases p with
  | none => rfl
  | some job => exact h job env network disk id

/-- What a way to write some names comes to, and that a run does not tell it from another one. -/
structure ReadsNames (names : List String) : Prop where
  escaped : Writes names (String.ofList (Settings.arrayOf names).compact)
  unescaped : ∀ depth, ∃ text, Writes names text ∧ Text.codes text = (Settings.arrayOf names).indented depth
  read : ∀ text, Writes names text →
    ∃ allow, parseDistributions (some text) = .ok allow ∧ ∀ x : Text, x ∈ allow ↔ ∃ s ∈ names, x = .whole s
  alike : ∀ others text text', Writes names text → Writes others text' → (∀ s, s ∈ names ↔ s ∈ others) →
    ∀ (job : Job) (env : Environment) (network : Http.Network) (disk : Workflow.Disk) (id : String),
      (job.including text).run env network disk id = (job.including text').run env network disk id
  alikeInCommands : ∀ others text text', Writes names text → Writes others text' → (∀ s, s ∈ names ↔ s ∈ others) →
    ∀ (before behind : List String) (env : Environment) (network : Http.Network) (disk : Workflow.Disk) (id : String),
      run (before ++ "--include-distributions" :: text :: behind) env network disk id =
        run (before ++ "--include-distributions" :: text' :: behind) env network disk id

theorem readsNames (names : List String) : ReadsNames names := by
  constructor
  · exact Settings.writes_compact names
  · exact Settings.exists_writes_indented names
  · intro text h
    refine ⟨_, h.parseDistributions_eq, fun x ↦ ?_⟩
    simp only [AllowList.mem_ofList, List.mem_map, eq_comm]
  · intro others text text' h h' hmem
    exact run_including_eq_of_writes h h' hmem
  · intro others text text' h h' hmem
    exact run_congr h.isOption_eq h'.isOption_eq (run_including_eq_of_writes h h' hmem)

/-- An escaped name is the name, and a name counts once. -/
example : (parseDistributions (some " [\"k3s\" ,\n\"\\u006b3s\"]")).map AllowList.names = .ok ["k3s"] := by
  decide +kernel

end Run

end ClusterMatrix

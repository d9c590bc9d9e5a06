import ClusterMatrix.Proofs.Json.Compact
import ClusterMatrix.Proofs.Run.Stages
import ClusterMatrix.Proofs.Table.Lines
import ClusterMatrix.Proofs.Workflow.Output

/-!
# The output of the matrix job

The matrix job sets its output at most once, to the selections of the whole catalog, and prints the same selections.
The output is set before the table is drawn: a run whose table cannot be drawn fails with its output set, and this is
the only way in which a failed run sets it.
-/

namespace ClusterMatrix.Run

open Workflow (Disk outputCommands outputPath? isActive)

/-! ## What a run does to the outputs of its workflow step -/

namespace Outcome

/-- A run leaves the outputs as they were: the disk is the same, and no line of standard output sets an output. -/
structure SetsNothing (o : Outcome) (disk : Disk) : Prop where
  disk : o.disk = disk
  stdout : outputCommands o.stdout = []

/-- A run sets an output once. Either three more lines stand at the end of the file that takes the outputs, or one
line of standard output is a command whose payload means the value. -/
inductive SetsOnce (o : Outcome) (r : Workflow.Record) (id : String) (env : Environment) (disk : Disk) : Prop where
  | file {path place : String} (named : outputPath? env = some path) (leads : disk.place path = .ok place)
      (record : o.disk =
        disk.extended place ((r.lines (Workflow.delimiter id)).flatMap fun line ↦ line ++ ['\n']))
      (stdout : outputCommands o.stdout = [])
  | command {payload : List Char} (unnamed : outputPath? env = none) (disk : o.disk = disk)
      (stdout : outputCommands o.stdout = [Workflow.Command.outputMark ++ r.name.toList ++ ':' :: ':' :: payload])
      (value : Workflow.unescape payload = r.value.toList)

variable {A : Type}

theorem exitCode_stopped (stage : Stage A) (s : Stop) (env : Environment) (disk : Disk) :
    (stopped stage s env disk).exitCode = 1 := by
  cases s with
  | unhandled u => rfl
  | failed message =>
    rw [stopped]
    cases noticeFault? "Error:" message with
    | none => rfl
    | some f => rfl

theorem outputCommands_of_annotation {message : String} {env : Environment} {written : List Char}
    (h : written = annotation message env) : outputCommands written = [] := by
  subst h
  unfold annotation
  split
  · exact Workflow.Command.outputCommands_error message
  · rfl

/-- A run that stops in a stage leaves the outputs as they were. -/
theorem setsNothing_stopped (stage : Stage A) (s : Stop) (env : Environment) (disk : Disk) :
    (stopped stage s env disk).SetsNothing disk := by
  cases s with
  | unhandled u => exact ⟨rfl, rfl⟩
  | failed message =>
    rw [stopped]
    cases noticeFault? "Error:" message with
    | none => exact ⟨rfl, outputCommands_of_annotation (stdout_of_printed rfl)⟩
    | some f => exact ⟨rfl, rfl⟩

end Outcome

/-! ## What is printed -/

/-- The text of selections is one line. -/
theorem newline_not_mem_selectionsText (selections : List Catalog.Selection) :
    '\n' ∉ selectionsText selections :=
  Json.newline_not_mem_compact _

theorem head?_selectionsText (selections : List Catalog.Selection) :
    (selectionsText selections).head? = some '[' :=
  Json.head?_compact_arr _

theorem head?_delimiter (id : String) : (Workflow.delimiter id).toList.head? = some 'g' := by
  rw [Workflow.delimiter, String.toList_append]
  rfl

/-- The text of selections never ends a record: it begins with a bracket. -/
theorem selectionsText_ne_delimiter (selections : List Catalog.Selection) (id : String) :
    selectionsText selections ≠ (Workflow.delimiter id).toList := by
  intro h
  have hh := head?_selectionsText selections
  rw [h, head?_delimiter] at hh
  exact absurd hh (by decide)

theorem yields_tableOf {A : Type} (title left right : String) (row : A → Except Unhandled (Table.Row (List Char)))
    (items : List A) : Yields (tableOf title left right row items) fun t ↦ t.title = title.toList :=
  (Yields.any _).bind fun _ _ ↦ (Yields.any _).bind fun _ _ ↦ .ok rfl

/-- A drawn table sets no output if its title could begin no command. -/
theorem yields_drawn {A : Type} {title : String} (h : ∀ c ∈ title.toList, c ≠ '\n' ∧ c ≠ ':') (left right : String)
    (row : A → Except Unhandled (Table.Row (List Char))) (items : List A) :
    Yields (drawn (tableOf title left right row items)) fun s ↦ outputCommands s = [] :=
  (yields_tableOf title left right row items).bind fun _ ht ↦ Yields.mapError (Table.yields_text (ht ▸ h))

namespace Matrix

/-- Nothing that is printed of the selections sets an output. -/
theorem yields_printed (format : Format) (selections : List Catalog.Selection) :
    Yields (printed format selections) fun s ↦ outputCommands s = [] := by
  cases format with
  | json =>
    refine .ok ?_
    rw [Workflow.outputCommands_append_cons (newline_not_mem_selectionsText selections),
      Workflow.isOutputCommand_of_head?, if_neg Bool.false_ne_true, Workflow.outputCommands_nil]
    rw [head?_selectionsText]
    decide
  | table => exact yields_drawn (Text.forall_mem_of_all rfl) _ _ _ _

/-! ## What is published -/

/-- The output of the job. -/
def output (selections : List Catalog.Selection) : Workflow.Record :=
  ⟨outputName, String.ofList (selectionsText selections)⟩

/-- The command that sets the output, where the environment names no file for it. -/
def command (selections : List Catalog.Selection) (env : Environment) : List Char :=
  if isActive env ∧ outputPath? env = none then
    (Workflow.Command.setOutput (output selections).name (output selections).value).line
  else []

variable {selections : List Catalog.Selection} {id : String} {env : Environment} {disk disk' : Disk}
  {written text : List Char} {o : Outcome}

theorem newline_not_mem_output (selections : List Catalog.Selection) : '\n' ∉ (output selections).name.toList := by
  change '\n' ∉ outputName.toList
  decide

theorem publish_of_isActive (h : isActive env = true) (selections : List Catalog.Selection) (id : String)
    (disk : Disk) : publish selections id env disk = Workflow.setOutput (output selections) id env disk := by
  rw [publish, if_pos h, output]

theorem publish_of_not_isActive (h : isActive env = false) (selections : List Catalog.Selection) (id : String)
    (disk : Disk) : publish selections id env disk = .ok (disk, []) := by
  rw [publish, h, if_neg Bool.false_ne_true]

/-- Publishing writes the command to standard output, or nothing. -/
theorem written_of_publish (h : publish selections id env disk = .ok (disk', written)) :
    written = command selections env := by
  rw [command]
  cases ha : isActive env with
  | false =>
    rw [publish_of_not_isActive ha] at h
    cases h
    rw [if_neg fun hc ↦ Bool.false_ne_true hc.1]
  | true =>
    rw [publish_of_isActive ha, Workflow.setOutput_eq_ok_iff] at h
    rcases h with ⟨path, place, hp, -, -, rfl⟩ | ⟨hp, -, rfl⟩
    · rw [hp, if_neg fun hc ↦ nomatch hc.2]
    · rw [if_pos ⟨rfl, hp⟩]

/-- In a workflow, publishing sets the output once, and printing sets no other. -/
theorem setsOnce_of_publish (ha : isActive env = true) (h : publish selections id env disk = .ok (disk', written))
    (ht : outputCommands text = []) (hd : o.disk = disk') (ho : o.stdout = written ++ text) :
    o.SetsOnce (output selections) id env disk := by
  rw [publish_of_isActive ha, Workflow.setOutput_eq_ok_iff] at h
  rcases h with ⟨path, place, hp, hl, rfl, rfl⟩ | ⟨hp, rfl, rfl⟩
  · refine .file hp hl ?_ ?_
    · rw [hd, Workflow.Record.text_eq_flatMap_lines]
    · rwa [ho, List.nil_append]
  · refine .command hp hd ?_ (Workflow.unescape_escape _)
    rw [ho, Workflow.Command.outputCommands_setOutput (newline_not_mem_output selections), ht, Workflow.Command.text,
      List.append_assoc]

/-- Outside of a workflow, publishing leaves the outputs as they were. -/
theorem setsNothing_of_publish (ha : isActive env = false)
    (h : publish selections id env disk = .ok (disk', written)) (ht : outputCommands text = []) (hd : o.disk = disk')
    (ho : o.stdout = written ++ text) : o.SetsNothing disk := by
  rw [publish_of_not_isActive ha] at h
  cases h
  exact ⟨hd, ho ▸ ht⟩

/-- Publishing fails only if the file that takes the outputs cannot be opened. -/
theorem place_of_publish {f : Workflow.FileFault} (h : publish selections id env disk = .error f) :
    ∃ path, outputPath? env = some path ∧ disk.place path = .error f := by
  cases ha : isActive env with
  | false =>
    rw [publish_of_not_isActive ha] at h
    cases h
  | true =>
    rw [publish_of_isActive ha] at h
    exact Workflow.setOutput_eq_error_iff.1 h

/-! ## Whole runs -/

variable {options : Options} {verbose : Bool} {network : Http.Network} {settings : Settings} {catalog : List Json}

/-- How a run of the matrix job ends: it stops before it publishes, it cannot publish, it publishes and cannot print,
or it does both. -/
inductive Ending (options : Options) (env : Environment) (network : Http.Network) (disk : Disk) (id : String)
    (o : Outcome) : Prop where
  | stopped (exit : o.exitCode = 1) (kept : o.SetsNothing disk)
      (nothing : ∀ settings catalog selections, ¬ Selects options env network settings catalog selections)
  | unpublished {settings : Settings} {catalog : List Json} {selections : List Catalog.Selection}
      {f : Workflow.FileFault} (exit : o.exitCode = 1) (kept : o.SetsNothing disk)
      (selects : Selects options env network settings catalog selections)
      (published : publish selections id env disk = .error f)
  | unprinted {settings : Settings} {catalog : List Json} {selections : List Catalog.Selection}
      {written : List Char} {u : Unhandled} (exit : o.exitCode = 1)
      (selects : Selects options env network settings catalog selections)
      (published : publish selections id env disk = .ok (o.disk, written))
      (printed : printed options.format selections = .error u) (stdout : o.stdout = written)
  | finished {settings : Settings} {catalog : List Json} {selections : List Catalog.Selection}
      {written text : List Char} (exit : o.exitCode = 0)
      (selects : Selects options env network settings catalog selections)
      (published : publish selections id env disk = .ok (o.disk, written))
      (printed : printed options.format selections = .ok text) (stdout : o.stdout = written ++ text)

/-- A run comes to at most one list of selections. -/
theorem Selects.unique {settings' : Settings} {catalog' : List Json} {selections' : List Catalog.Selection}
    (h : Selects options env network settings catalog selections)
    (h' : Selects options env network settings' catalog' selections') : selections = selections' := by
  have hr : (choose options false env network).result = .ok selections :=
    result_choose_eq_ok_iff.2 ⟨settings, catalog, h⟩
  rw [result_choose_eq_ok_iff.2 ⟨settings', catalog', h'⟩] at hr
  exact (Except.ok.inj hr).symm

/-- Every run of the matrix job ends in one of these ways. -/
theorem ending_run (options : Options) (verbose : Bool) (env : Environment) (network : Http.Network) (disk : Disk)
    (id : String) : Ending options env network disk id (run options verbose env network disk id) := by
  rw [run]
  cases hc : (choose options verbose env network).result with
  | error s =>
    refine .stopped (Outcome.exitCode_stopped _ s env disk) (Outcome.setsNothing_stopped _ s env disk) ?_
    intro settings catalog selections hs
    rw [result_choose_eq_ok_iff.2 ⟨settings, catalog, hs⟩] at hc
    cases hc
  | ok selections =>
    obtain ⟨settings, catalog, hs⟩ := result_choose_eq_ok_iff.1 hc
    dsimp only
    cases hp : publish selections id env disk with
    | error f => exact .unpublished rfl ⟨rfl, rfl⟩ hs hp
    | ok written =>
      obtain ⟨disk', written⟩ := written
      dsimp only
      cases ht : printed options.format selections with
      | error u => exact .unprinted rfl hs hp ht (Outcome.stdout_of_printed rfl)
      | ok text => exact .finished rfl hs hp ht (Outcome.stdout_of_printed rfl)

/-- What a run of the matrix job does to the outputs of its workflow step. The output is set at most once, in a
workflow and to the selections of the whole catalog. A run that succeeds sets it in a workflow, and prints the same
selections. -/
structure Publishes (options : Options) (env : Environment) (network : Http.Network) (disk : Disk) (id : String)
    (o : Outcome) : Prop where
  once : o.SetsNothing disk ∨ isActive env = true ∧ ∃ settings catalog selections,
    Selects options env network settings catalog selections ∧ o.SetsOnce (output selections) id env disk
  success : o.exitCode = 0 → ∃ settings catalog selections,
    Selects options env network settings catalog selections ∧
      (isActive env = true → o.SetsOnce (output selections) id env disk) ∧
      (options.format = .json → o.stdout = command selections env ++ selectionsText selections ++ ['\n'])
  outside : isActive env = false → o.SetsNothing disk

/-- A run that publishes its selections sets the output once in a workflow, whatever becomes of the printing. -/
theorem once_of_publish (hs : Selects options env network settings catalog selections)
    (h : publish selections id env disk = .ok (o.disk, written)) (ht : outputCommands text = [])
    (ho : o.stdout = written ++ text) :
    o.SetsNothing disk ∨ isActive env = true ∧ ∃ settings catalog selections,
      Selects options env network settings catalog selections ∧ o.SetsOnce (output selections) id env disk := by
  cases ha : isActive env with
  | false => exact .inl (setsNothing_of_publish ha h ht rfl ho)
  | true => exact .inr ⟨rfl, settings, catalog, selections, hs, setsOnce_of_publish ha h ht rfl ho⟩

theorem Ending.publishes (h : Ending options env network disk id o) : Publishes options env network disk id o := by
  cases h with
  | stopped exit kept _ =>
    refine ⟨.inl kept, fun h0 ↦ ?_, fun _ ↦ kept⟩
    rw [exit] at h0
    cases h0
  | unpublished exit kept _ _ =>
    refine ⟨.inl kept, fun h0 ↦ ?_, fun _ ↦ kept⟩
    rw [exit] at h0
    cases h0
  | unprinted exit selects published _ stdout =>
    have ho := stdout.trans (List.append_nil _).symm
    refine ⟨once_of_publish selects published Workflow.outputCommands_nil ho, fun h0 ↦ ?_, fun ha ↦ ?_⟩
    · rw [exit] at h0
      cases h0
    · exact setsNothing_of_publish ha published Workflow.outputCommands_nil rfl ho
  | @finished settings catalog selections written text _ selects published printed stdout =>
    have ht : outputCommands text = [] := yields_printed _ _ text printed
    refine ⟨once_of_publish selects published ht stdout, fun _ ↦ ?_, fun ha ↦ ?_⟩
    · refine ⟨settings, catalog, selections, selects, fun ha ↦ ?_, fun hf ↦ ?_⟩
      · exact setsOnce_of_publish ha published ht rfl stdout
      · rw [hf] at printed
        cases printed
        rw [stdout, written_of_publish published, List.append_assoc]
    · exact setsNothing_of_publish ha published ht rfl stdout

/-- The matrix job publishes the selections of the whole catalog, and nothing else. Their text is one line, which is
never taken for the end of a record. -/
theorem publishes_run (options : Options) (verbose : Bool) (env : Environment) (network : Http.Network) (disk : Disk)
    (id : String) :
    Publishes options env network disk id (Job.run env network disk id (.matrix options verbose)) ∧
      ∀ selections, '\n' ∉ selectionsText selections ∧ (selectionsText selections).head? = some '[' ∧
        selectionsText selections ≠ (Workflow.delimiter id).toList := by
  refine ⟨(ending_run options verbose env network disk id).publishes, fun selections ↦ ⟨?_, ?_, ?_⟩⟩
  · exact newline_not_mem_selectionsText selections
  · exact head?_selectionsText selections
  · exact selectionsText_ne_delimiter selections id

/-! ## Runs that fail with their output set -/

/-- The output is set before the run fails: in a workflow, the table of the selections cannot be drawn, and the file
that takes the outputs is the watched one, if there is any. -/
structure Spoils (options : Options) (env : Environment) (network : Http.Network) (disk : Disk) (settings : Settings)
    (catalog : List Json) (selections : List Catalog.Selection) : Prop where
  selects : Selects options env network settings catalog selections
  active : isActive env = true
  table : options.format = .table
  undrawn : ∃ u, drawn (selectionTable selections) = .error u
  watched : ∀ path, outputPath? env = some path → disk.place path = .ok disk.path

/-- An output that is set shows, unless it goes to a file that is not watched. -/
theorem not_setsNothing_iff_of_setsOnce {r : Workflow.Record} (h : o.SetsOnce r id env disk) :
    ¬ o.SetsNothing disk ↔ ∀ path, outputPath? env = some path → disk.place path = .ok disk.path := by
  cases h with
  | @file path place named leads record stdout =>
    rw [← Workflow.Record.text_eq_flatMap_lines] at record
    have hk : o.SetsNothing disk ↔ place ≠ disk.path := by
      rw [← Workflow.Disk.extended_eq_self_iff (Workflow.Record.text_ne_nil r (Workflow.delimiter id)), ← record]
      exact ⟨fun hn ↦ hn.disk, fun hd ↦ ⟨hd, stdout⟩⟩
    rw [hk, ne_eq, Decidable.not_not]
    constructor
    · rintro rfl path' hp
      rw [named, Option.some.injEq] at hp
      rw [← hp, leads]
    · intro hw
      rw [hw path named, Except.ok.injEq] at leads
      exact leads.symm
  | command unnamed _ stdout _ =>
    constructor
    · intro _ path hp
      rw [unnamed] at hp
      cases hp
    · intro _ hn
      rw [hn.stdout] at stdout
      cases stdout

/-- A run that fails with its output set has published its selections, and its table cannot be drawn. -/
theorem Ending.exists_spoils (h : Ending options env network disk id o) (he : o.exitCode ≠ 0)
    (hn : ¬ o.SetsNothing disk) :
    ∃ settings catalog selections, Spoils options env network disk settings catalog selections := by
  cases h with
  | stopped _ kept _ => exact absurd kept hn
  | unpublished _ kept _ _ => exact absurd kept hn
  | @unprinted settings catalog selections written u _ selects published printed stdout =>
    have ho : o.stdout = written ++ [] := stdout.trans (List.append_nil _).symm
    have ha : isActive env = true := by
      cases ha : isActive env with
      | false => exact absurd (setsNothing_of_publish ha published Workflow.outputCommands_nil rfl ho) hn
      | true => rfl
    have hs := setsOnce_of_publish ha published Workflow.outputCommands_nil rfl ho
    have hw := (not_setsNothing_iff_of_setsOnce hs).1 hn
    cases hf : options.format with
    | json =>
      rw [hf] at printed
      cases printed
    | table =>
      rw [hf] at printed
      exact ⟨settings, catalog, selections, selects, ha, hf, ⟨u, printed⟩, hw⟩
  | finished exit _ _ _ _ => exact absurd exit he

/-- Where the table of the selections cannot be drawn, a run in a workflow fails with its output set. -/
theorem Spoils.failed_and_set (hs : Spoils options env network disk settings catalog selections)
    (h : Ending options env network disk id o) : o.exitCode ≠ 0 ∧ ¬ o.SetsNothing disk := by
  cases h with
  | stopped _ _ nothing => exact absurd hs.selects (nothing settings catalog selections)
  | unpublished _ _ _ published =>
    obtain ⟨path, hp, hl⟩ := place_of_publish published
    rw [hs.watched path hp] at hl
    cases hl
  | @unprinted settings' catalog' selections' written u exit _ published _ stdout =>
    have ho : o.stdout = written ++ [] := stdout.trans (List.append_nil _).symm
    have hset := setsOnce_of_publish hs.active published Workflow.outputCommands_nil rfl ho
    refine ⟨?_, (not_setsNothing_iff_of_setsOnce hset).2 hs.watched⟩
    rw [exit]
    exact Nat.one_ne_zero
  | @finished settings' catalog' selections' written text _ selects _ printed _ =>
    obtain ⟨u, hu⟩ := hs.undrawn
    rw [hs.selects.unique selects] at hu
    rw [hs.table] at printed
    change drawn (selectionTable selections') = .ok text at printed
    rw [hu] at printed
    cases printed

/-- A run fails and has set its output exactly if the table of its selections cannot be drawn. -/
theorem failed_and_set_iff (options : Options) (verbose : Bool) (env : Environment) (network : Http.Network)
    (disk : Disk) (id : String) :
    ((Job.run env network disk id (.matrix options verbose)).exitCode ≠ 0 ∧
        ¬ (Job.run env network disk id (.matrix options verbose)).SetsNothing disk) ↔
      ∃ settings catalog selections, Spoils options env network disk settings catalog selections := by
  have he : Ending options env network disk id (Job.run env network disk id (.matrix options verbose)) :=
    ending_run options verbose env network disk id
  constructor
  · rintro ⟨hexit, hn⟩
    exact he.exists_spoils hexit hn
  · rintro ⟨settings, catalog, selections, hs⟩
    exact hs.failed_and_set he

def tableArguments : List String :=
  ["matrix", "--token", "t", "--include-distributions", "[\"k3s\"]", "--fmt", "table"]

/-- The only version is a closing tag without its opening one. -/
def closingNetwork : Http.Network := versionNetwork "[\"[/x]\"]"

/-- Not every run that fails leaves the outputs as they were. -/
theorem failed_and_set_closingNetwork :
    ¬ ((ClusterMatrix.run tableArguments stepEnvironment closingNetwork stepDisk "1").exitCode ≠ 0 →
      (ClusterMatrix.run tableArguments stepEnvironment closingNetwork stepDisk "1").SetsNothing stepDisk) := by
  have hexit : (ClusterMatrix.run tableArguments stepEnvironment closingNetwork stepDisk "1").exitCode ≠ 0 := by
    decide +kernel
  have hdisk : (ClusterMatrix.run tableArguments stepEnvironment closingNetwork stepDisk "1").disk ≠ stepDisk := by
    decide +kernel
  intro h
  exact hdisk (h hexit).disk

end Matrix

end ClusterMatrix.Run

import ClusterMatrix.Proofs.Http.Requests
import ClusterMatrix.Proofs.Run.Agreement
import ClusterMatrix.Proofs.Run.Failure

/-!
# Where a run takes its inputs from

An option comes before an input of the workflow step, and an input before a variable: of the sources of a text the first
one counts that is not empty. A run without a credential, or with distributions that are no array of names, fails before
it sends anything, so the network has no part in it. The first request of any other run carries the credential.
-/

namespace ClusterMatrix

/-! ## Sources -/

/-- The first text that is there and not empty. -/
def firstGiven (sources : List (Option String)) : Option String := (sources.filterMap id).find? (· ≠ "")

/-- A text without the blanks around it. -/
def stripped (text : String) : String := String.ofList (Text.trim text.toList)

namespace Job

def options : Job → Options
  | .matrix options _ => options
  | .versions options _ => options

/-- The sources of the credential, the foremost first. -/
def credentialSources (env : Environment) (job : Job) : List (Option String) :=
  [job.options.token, (env.get? "INPUT_REPLICATED-API-TOKEN").map stripped, env.get? "REPLICATED_API_TOKEN"]

/-- The sources of the distributions, the foremost first. Only the versions job has a text of its own for them. -/
def distributionSources (env : Environment) : Job → List (Option String)
  | .matrix options _ => [options.distributions, (env.get? "INPUT_INCLUDE-DISTRIBUTIONS").map stripped]
  | .versions options _ => [options.distributions, some "[]"]

def credential? (env : Environment) (job : Job) : Option String := firstGiven (job.credentialSources env)

def distributions? (env : Environment) (job : Job) : Option String := firstGiven (job.distributionSources env)

def endpoint (job : Job) : String := (given? job.options.endpoint).getD Settings.defaultEndpoint

/-- The settings that the job loads. -/
def loaded (env : Environment) : Job → Except Settings.Refusal Settings
  | .matrix options _ => Run.Matrix.loaded options env
  | .versions options _ => Run.Versions.loaded options env

end Job

@[simp] theorem firstGiven_singleton (source : Option String) : firstGiven [source] = given? source := by
  cases source with
  | none => rfl
  | some text => by_cases h : text = "" <;> simp [firstGiven, given?, h]

/-- The sources behind count only if none of those in front is given. -/
theorem firstGiven_append (sources others : List (Option String)) :
    firstGiven (sources ++ others) = (firstGiven sources).or (firstGiven others) := by
  simp only [firstGiven, List.filterMap_append, List.find?_append]

theorem firstGiven_pair (source other : Option String) :
    firstGiven [source, other] = (given? source).or (given? other) := by
  rw [← firstGiven_singleton, ← firstGiven_singleton, ← firstGiven_append, List.singleton_append]

/-- What was given once is given. -/
@[simp] theorem given?_given? (text : Option String) : given? (given? text) = given? text := by
  cases text with
  | none => rfl
  | some text => by_cases h : text = "" <;> simp [given?, h]

theorem given?_or (text other : Option String) :
    given? ((given? text).or (given? other)) = (given? text).or (given? other) := by
  cases h : given? text with
  | none => simp
  | some t =>
    rw [Option.or, ← h, given?_given?]

/-- An option comes before the stripped value of the input. -/
theorem given?_optionOrInput (option : Option String) (input : String) (env : Environment) :
    given? (Run.optionOrInput option input env) =
      firstGiven [option, (env.get? (Workflow.inputVariable input)).map stripped] := by
  have hinput : Workflow.input? input env = given? ((env.get? (Workflow.inputVariable input)).map stripped) := by
    rw [Workflow.input?]
    cases env.get? (Workflow.inputVariable input) <;> rfl
  rw [Run.optionOrInput, hinput, given?_or, firstGiven_pair]

namespace Settings

/-- An explicit credential comes before the one in the environment. -/
theorem resolveCredential_eq (explicit : Option String) (env : Environment) :
    resolveCredential explicit env =
      match (given? explicit).or (given? (env.get? credentialVariable)) with
      | some credential => .ok credential
      | none => .error .noCredential := by
  rw [resolveCredential]
  cases given? explicit with
  | some credential => rfl
  | none => cases given? (env.get? credentialVariable) <;> rfl

/-- Distributions are read from a text that is given. -/
theorem parseDistributions_congr {raw raw' : Option String} (h : given? raw = given? raw') :
    parseDistributions raw = parseDistributions raw' := by
  rw [parseDistributions, parseDistributions, h]

end Settings

namespace Job

theorem credential?_eq (env : Environment) (job : Job) :
    job.credential? env = (given? (Run.optionOrInput job.options.token Run.tokenInput env)).or
      (given? (env.get? credentialVariable)) := by
  have hname : Workflow.inputVariable Run.tokenInput = "INPUT_REPLICATED-API-TOKEN" := by decide
  rw [given?_optionOrInput, ← firstGiven_singleton (env.get? _), ← firstGiven_append, hname]
  rfl

/-- Both jobs load their settings in one way, and differ in the text for the distributions. -/
theorem exists_loaded_eq (env : Environment) (job : Job) :
    ∃ distributions, given? distributions = job.distributions? env ∧
      job.loaded env = Settings.load (Run.optionOrInput job.options.token Run.tokenInput env) distributions env
        job.options.endpoint := by
  cases job with
  | matrix options verbose =>
    have hname : Workflow.inputVariable Run.Matrix.distributionsInput = "INPUT_INCLUDE-DISTRIBUTIONS" := by decide
    refine ⟨Run.optionOrInput options.distributions Run.Matrix.distributionsInput env, ?_, rfl⟩
    rw [given?_optionOrInput, hname]
    rfl
  | versions options latest =>
    refine ⟨some ((given? options.distributions).getD Run.Versions.everything), ?_, rfl⟩
    rw [distributions?, distributionSources, firstGiven_pair]
    cases h : given? options.distributions with
    | none => rfl
    | some text =>
      rw [Option.getD_some, ← h, given?_given?, h]
      rfl

/-- The credential is looked up before the distributions are read. -/
theorem loaded_eq (env : Environment) (job : Job) :
    job.loaded env = match job.credential? env with
      | none => .error (.misconfigured .noCredential)
      | some credential => (Settings.parseDistributions (job.distributions? env)).map
          fun distributions ↦ ⟨credential, distributions, job.endpoint⟩ := by
  obtain ⟨distributions, hd, hl⟩ := job.exists_loaded_eq env
  have hparse : Settings.parseDistributions distributions = Settings.parseDistributions (job.distributions? env) := by
    apply Settings.parseDistributions_congr
    rw [← hd, given?_given?]
  rw [hl, Settings.load, Settings.resolveCredential_eq, ← credential?_eq, hparse]
  cases job.credential? env with
  | none => rfl
  | some credential => cases Settings.parseDistributions (job.distributions? env) <;> rfl

end Job

namespace Run

open Workflow (Disk)

variable {A B E : Type} {env : Environment} {settings : Settings} {network : Http.Network}

/-! ## Runs that are refused -/

/-- A run that fails since its settings are misconfigured: the user is told why, and nothing is sent. -/
def Outcome.refused (why : Misconfiguration) (env : Environment) (disk : Disk) : Outcome :=
  ⟨1, Text.codesOf <| annotation why.message env, [.error why.message], [], disk, none⟩

theorem Outcome.stopped_eq_refused {stage : Stage A} (he : stage.events = []) (hr : stage.requests = [])
    (why : Misconfiguration) (env : Environment) (disk : Disk) :
    stopped stage (.failed why.message) env disk = refused why env disk := by
  rw [stopped, noticeFault?_of_not_mem why.bracket_not_mem_message, he, hr]
  rfl

/-- Misconfigured settings stop the job in its first stage. -/
theorem settle_of_misconfigured {credential distributions endpoint : Option String} {why : Misconfiguration}
    (h : Settings.load credential distributions env endpoint = .error (.misconfigured why)) :
    settle credential distributions env endpoint = ⟨[], [], .error (.failed why.message)⟩ := by
  rw [settle, h]
  rfl

theorem run_of_misconfigured {job : Job} {why : Misconfiguration} (h : job.loaded env = .error (.misconfigured why))
    (network : Http.Network) (disk : Disk) (id : String) : job.run env network disk id = .refused why env disk := by
  cases job with
  | matrix options verbose =>
    have hs : Matrix.settle options env = ⟨[], [], .error (.failed why.message)⟩ := settle_of_misconfigured h
    have hc : Matrix.choose options verbose env network = ⟨[], [], .error (.failed why.message)⟩ := by
      rw [Matrix.choose, hs]
      rfl
    rw [Job.run, Matrix.run, hc]
    exact Outcome.stopped_eq_refused rfl rfl why env disk
  | versions options latest =>
    have hs : Versions.settle options env = ⟨[], [], .error (.failed why.message)⟩ := settle_of_misconfigured h
    have ht : Versions.text options latest env network = ⟨[], [], .error (.failed why.message)⟩ := by
      rw [Versions.text, Versions.listed, hs]
      rfl
    rw [Job.run, Versions.run, ht]
    exact Outcome.stopped_eq_refused rfl rfl why env disk

/-! ## Requests of a run -/

theorem Outcome.requests_stopped (stage : Stage A) (s : Stop) (env : Environment) (disk : Disk) :
    (stopped stage s env disk).requests = stage.requests := by
  cases s with
  | unhandled u => rfl
  | failed message =>
    rw [stopped]
    cases noticeFault? "Error:" message <;> rfl

namespace Stage

/-- Behind a stage that sends nothing there are only the requests of the first one. -/
theorem requests_bind_of_silent {x : Stage A} {k : A → Stage B} (hk : ∀ a, (k a).requests = []) :
    (x >>= k).requests = x.requests := by
  cases h : x.result with
  | error s => rw [bind_of_error h]
  | ok a => rw [bind_of_ok h, hk, List.append_nil]

theorem requests_orAbort (unhandled : E → Unhandled) (x : Except E A) : (orAbort unhandled x).requests = [] := by
  cases x <;> rfl

end Stage

open Stage

namespace Matrix

variable {options : Options} {verbose : Bool}

theorem requests_run (options : Options) (verbose : Bool) (env : Environment) (network : Http.Network) (disk : Disk)
    (id : String) :
    (run options verbose env network disk id).requests = (choose options verbose env network).requests := by
  rw [run]
  dsimp only
  split
  · exact Outcome.requests_stopped _ _ env disk
  · split
    · rfl
    · split <;> rfl

/-- The requests of the matrix job are those of its fetch. -/
theorem requests_choose_cases (options : Options) (verbose : Bool) (env : Environment) (network : Http.Network) :
    (choose options verbose env network).requests = [] ∨
      ∃ settings, loaded options env = .ok settings ∧
        (choose options verbose env network).requests = sent settings network := by
  by_cases h : (choose options verbose env network).requests = []
  · exact .inl h
  · obtain ⟨settings, hf⟩ := exists_fetches_of_requests h
    exact .inr ⟨settings, hf.loaded, (endsWith_choose hf verbose network).requests⟩

end Matrix

namespace Versions

theorem requests_run (options : Options) (latest : Bool) (env : Environment) (network : Http.Network) (disk : Disk) :
    (run options latest env network disk).requests = (text options latest env network).requests := by
  rw [run]
  split
  · exact Outcome.requests_stopped _ _ env disk
  · rfl

theorem requests_restricted (allow : AllowList) (catalog : List Json) : (restricted allow catalog).requests = [] := by
  rw [restricted]
  split
  · rfl
  · exact requests_orAbort _ _

theorem requests_latest (catalog : List Json) : (latest catalog).requests = [] := by
  rw [latest, requests_bind_of_silent fun _ ↦ rfl, requests_orAbort]

theorem requests_latestText (format : Format) (catalog : List Json) : (latestText format catalog).requests = [] := by
  rw [latestText, requests_bind_of_silent, requests_latest]
  intro selections
  cases format with
  | json => rfl
  | table => exact requests_orAbort _ _

theorem requests_catalogText (format : Format) (catalog : List Json) : (catalogText format catalog).requests = [] := by
  cases format with
  | json => rfl
  | table => exact requests_orAbort _ _

/-- What is printed behind the fetch sends nothing. -/
theorem requests_text (options : Options) (latest : Bool) (env : Environment) (network : Http.Network) :
    (text options latest env network).requests = (listed options env network).requests := by
  rw [text, requests_bind_of_silent]
  intro catalog
  cases latest with
  | true => exact requests_latestText _ _
  | false => exact requests_catalogText _ _

/-- The requests of the versions job are those of its fetch. -/
theorem requests_text_cases (options : Options) (latest : Bool) (env : Environment) (network : Http.Network) :
    (text options latest env network).requests = [] ∨
      ∃ settings, loaded options env = .ok settings ∧
        (text options latest env network).requests = sent settings network := by
  rw [requests_text, listed]
  have hsettle : (settle options env).requests = [] := requests_settle _ _ _ _
  cases hs : (settle options env).result with
  | error s =>
    rw [bind_of_error hs]
    exact .inl hsettle
  | ok settings =>
    refine .inr ⟨settings, result_settle_eq_ok_iff.1 hs, ?_⟩
    rw [bind_of_ok hs, hsettle, List.nil_append, requests_bind_of_silent (requests_restricted settings.distributions)]
    rfl

end Versions

/-- A run that sends requests has loaded its settings, and its requests are those of the fetch under them. -/
theorem requests_run_cases (job : Job) (env : Environment) (network : Http.Network) (disk : Disk) (id : String) :
    (job.run env network disk id).requests = [] ∨
      ∃ settings, job.loaded env = .ok settings ∧ (job.run env network disk id).requests = sent settings network := by
  cases job with
  | matrix options verbose =>
    rw [Job.run, Matrix.requests_run]
    exact Matrix.requests_choose_cases options verbose env network
  | versions options latest =>
    rw [Job.run, Versions.requests_run]
    exact Versions.requests_text_cases options latest env network

/-! ## Inputs of a run -/

/-- The settings of a job are those that its sources say. -/
theorem loaded_eq_ok_iff {job : Job} :
    job.loaded env = .ok settings ↔
      job.credential? env = some settings.credential ∧
        Settings.parseDistributions (job.distributions? env) = .ok settings.distributions ∧
          settings.endpoint = job.endpoint := by
  rw [job.loaded_eq]
  cases job.credential? env with
  | none => exact ⟨nofun, nofun⟩
  | some credential =>
    cases Settings.parseDistributions (job.distributions? env) with
    | error r => exact ⟨nofun, nofun⟩
    | ok distributions =>
      constructor
      · rintro ⟨⟩
        exact ⟨rfl, rfl, rfl⟩
      · rintro ⟨⟨⟩, ⟨⟩, he⟩
        obtain ⟨c, d, e⟩ := settings
        cases he
        rfl

/-- What a run makes of its inputs. Its settings are what the sources say. Without a credential it is refused, and with
distributions that are misconfigured as well, whatever the network would answer. Where user information does not take
its place, the credential goes along with the first request. -/
structure TakesInputs (job : Job) (env : Environment) (disk : Disk) (id : String) : Prop where
  settings : ∀ settings, job.loaded env = .ok settings ↔
    job.credential? env = some settings.credential ∧
      Settings.parseDistributions (job.distributions? env) = .ok settings.distributions ∧
        settings.endpoint = job.endpoint
  noCredential : job.credential? env = none →
    ∀ network, job.run env network disk id = .refused .noCredential env disk
  misconfigured : ∀ credential why, job.credential? env = some credential →
    Settings.parseDistributions (job.distributions? env) = .error (.misconfigured why) →
      ∀ network, job.run env network disk id = .refused why env disk
  authorization : Http.Endpoint.IsPlain job.endpoint →
    ∀ network, ∀ request ∈ (job.run env network disk id).requests.head?,
      request.authorization = job.credential? env

/-- Every run takes its inputs from its sources in their order. -/
theorem takesInputs_run (job : Job) (env : Environment) (disk : Disk) (id : String) : TakesInputs job env disk id := by
  refine ⟨fun _ ↦ loaded_eq_ok_iff, ?_, ?_, ?_⟩
  · intro hc network
    refine run_of_misconfigured ?_ network disk id
    rw [job.loaded_eq, hc]
  · intro credential why hc hd network
    refine run_of_misconfigured ?_ network disk id
    rw [job.loaded_eq, hc, hd]
    rfl
  · intro hp network request hr
    rcases requests_run_cases job env network disk id with h | ⟨settings, hl, h⟩
    · rw [h] at hr
      cases hr
    · obtain ⟨hc, -, he⟩ := loaded_eq_ok_iff.1 hl
      rw [h] at hr
      rw [hc]
      exact authorization_of_fetch (he ▸ hp) hr

/-- A blank input does not count, and the variable counts with its blanks. -/
example : (Job.versions ⟨some "", none, none, .json⟩ false).credential?
    ⟨[("INPUT_REPLICATED-API-TOKEN", " \t"), ("REPLICATED_API_TOKEN", " t ")]⟩ = some " t " := by
  decide +kernel

end Run

end ClusterMatrix

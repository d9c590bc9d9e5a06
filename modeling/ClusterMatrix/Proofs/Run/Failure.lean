import Mathlib.Control.Monad.Basic
import ClusterMatrix.Proofs.Run.Stages
import ClusterMatrix.Proofs.Workflow.Lines

/-!
# Runs that fail with a message

A job that fails with a message tells it to the user first, as markup, and to the workflow after that. A message whose
markup cannot be shown is never reported. Without an opening bracket there is no markup, so what is wrong with the
settings is always reported.
-/

namespace ClusterMatrix

/-! ## Messages without markup -/

theorem Json.bracket_not_mem_toString (n : Nat) : '[' ∉ (toString n).toList := by
  rw [Nat.toString_eq_repr, Nat.toList_repr]
  intro h
  exact absurd (Nat.isDigit_of_mem_toDigits (by decide) (by decide) h) (by decide)

theorem Json.Cause.bracket_not_mem_message (c : Cause) : '[' ∉ c.message.toList := by
  cases c <;> decide

theorem Json.Fault.bracket_not_mem_message (f : Fault) : '[' ∉ f.message.toList := by
  simp only [message, String.toList_append, List.mem_append, not_or]
  refine ⟨⟨⟨⟨⟨⟨⟨f.cause.bracket_not_mem_message, ?_⟩, ?_⟩, ?_⟩, ?_⟩, ?_⟩, ?_⟩, ?_⟩
  · decide
  · exact bracket_not_mem_toString f.line
  · decide
  · exact bracket_not_mem_toString f.column
  · decide
  · exact bracket_not_mem_toString f.offset
  · decide

/-- What is wrong with the settings is told without markup. -/
theorem Misconfiguration.bracket_not_mem_message (why : Misconfiguration) : '[' ∉ why.message.toList := by
  cases why with
  | noCredential => decide +kernel
  | noDistributions => decide +kernel
  | notJson fault =>
    change '[' ∉ ("Distributions to include must be valid JSON: " ++ fault.message).toList
    rw [String.toList_append, List.mem_append, not_or]
    have hp : '[' ∉ "Distributions to include must be valid JSON: ".toList := by decide +kernel
    exact ⟨hp, fault.bracket_not_mem_message⟩
  | notArray => decide +kernel
  | notTexts => decide +kernel

end ClusterMatrix

namespace ClusterMatrix.Run

open Workflow (Disk isActive)

/-- A notice without an opening bracket can be shown. -/
theorem noticeFault?_of_not_mem {text : String} (h : '[' ∉ text.toList) (mark : String) :
    noticeFault? mark text = none := by
  rw [noticeFault?, Markup.shown_of_not_mem h]
  rfl

/-! ## Reports -/

namespace Outcome

/-- A run reports a message to the workflow: it ends with a failure and leaves the disk alone, and its standard output
is the one line of an error whose payload means the message. -/
structure Reports (o : Outcome) (message : String) (disk : Disk) : Prop where
  exit : o.exitCode = 1
  handled : o.unhandled = none
  disk : o.disk = disk
  stdout : o.printed = Text.codesOf (Workflow.Command.errorMark ++ Workflow.escape message.toList ++ ['\n'])
  line : '\n' ∉ Workflow.escape message.toList
  payload : Workflow.unescape (Workflow.escape message.toList) = message.toList

variable {A : Type} {env : Environment} {disk : Disk} {message : String}

/-- In a workflow, a run that stops with a message reports it if the message can be shown. -/
theorem reports_stopped (ha : isActive env = true) (hn : noticeFault? "Error:" message = none) (stage : Stage A) :
    (stopped stage (.failed message) env disk).Reports message disk := by
  have hl : '\n' ∉ Workflow.escape message.toList := fun h ↦ (Workflow.not_lineEnd_of_mem_escape h).1 rfl
  have hline : annotation message env = Workflow.Command.errorMark ++ Workflow.escape message.toList ++ ['\n'] := by
    unfold annotation
    rw [if_pos ha, Workflow.Command.line, Workflow.Command.text]
  rw [stopped, hn]
  exact ⟨rfl, rfl, rfl, congrArg Text.codesOf hline, hl, Workflow.unescape_escape _⟩

end Outcome

/-- A job that fails with a message stops with it. -/
theorem exists_stopped_of_fails {env : Environment} {network : Http.Network} {job : Job} {message : String}
    (h : Fails env network job message) (disk : Disk) (id : String) :
    ∃ (A : Type) (stage : Stage A), job.run env network disk id = .stopped stage (.failed message) env disk := by
  cases job with
  | matrix options verbose =>
    refine ⟨_, Matrix.choose options verbose env network, ?_⟩
    rw [Job.run, Matrix.run, Matrix.result_choose_eq_failed_iff.2 h]
  | versions options latest =>
    refine ⟨_, Versions.text options latest env network, ?_⟩
    rw [Job.run, Versions.run, Versions.result_text_eq_failed_iff.2 h]

/-- In a workflow, a job that fails with a message ends with exit code 1 and leaves the disk alone. It reports the
message exactly if the markup of the message can be shown; a fault of the markup is left unhandled, and nothing is
written to standard output. What is wrong with the settings is always reported. -/
theorem reports_iff_of_fails {env : Environment} {network : Http.Network} {job : Job} {message : String}
    (ha : isActive env = true) (h : Fails env network job message) (disk : Disk) (id : String) :
    (job.run env network disk id).exitCode = 1 ∧ (job.run env network disk id).disk = disk ∧
      ((job.run env network disk id).Reports message disk ↔ noticeFault? "Error:" message = none) ∧
      (∀ f, noticeFault? "Error:" message = some f →
        (job.run env network disk id).unhandled = some (.markup f) ∧ (job.run env network disk id).stdout = []) ∧
      ∀ why : Misconfiguration, why.message = message → (job.run env network disk id).Reports message disk := by
  obtain ⟨A, stage, hr⟩ := exists_stopped_of_fails h disk id
  rw [hr]
  cases hn : noticeFault? "Error:" message with
  | none =>
    have hs : (Outcome.stopped stage (.failed message) env disk).Reports message disk :=
      Outcome.reports_stopped ha hn stage
    exact ⟨hs.exit, hs.disk, ⟨fun _ ↦ rfl, fun _ ↦ hs⟩, nofun, fun _ _ ↦ hs⟩
  | some f =>
    have hmarkup : ∀ why : Misconfiguration, why.message ≠ message := by
      rintro why rfl
      rw [noticeFault?_of_not_mem why.bracket_not_mem_message] at hn
      cases hn
    rw [Outcome.stopped, hn]
    refine ⟨rfl, rfl, ⟨fun hs ↦ ?_, nofun⟩, ?_, fun why hwhy ↦ absurd hwhy (hmarkup why)⟩
    · cases hs.handled
    · rintro g ⟨⟩
      exact ⟨rfl, rfl⟩

/-- The version is malformed, and a closing tag without its opening one. -/
def malformedNetwork : Http.Network := versionNetwork "[\"1\", \"[/x]\"]"

def malformedOptions : Options := ⟨some "t", some "[\"k3s\"]", none, .json⟩

theorem fails_malformedNetwork :
    Fails stepEnvironment malformedNetwork (.matrix malformedOptions false) "Cannot coerce version: '[/x]'" :=
  Matrix.result_choose_eq_failed_iff.1 (by decide +kernel)

/-- Not every failure with a message is reported. -/
theorem not_reports_malformedNetwork :
    ¬ (isActive stepEnvironment = true →
      Fails stepEnvironment malformedNetwork (.matrix malformedOptions false) "Cannot coerce version: '[/x]'" →
      (Job.run stepEnvironment malformedNetwork stepDisk "1" (.matrix malformedOptions false)).Reports
        "Cannot coerce version: '[/x]'" stepDisk) := by
  have hu : (Job.run stepEnvironment malformedNetwork stepDisk "1" (.matrix malformedOptions false)).unhandled ≠
      none := by
    decide +kernel
  intro h
  exact hu (h rfl fails_malformedNetwork).handled

/-- The network fails with a message of two lines. -/
def lostNetwork : Http.Network := ⟨.failure "ConnectionError" "50%\nlost", []⟩

def tokenOptions : Options := ⟨some "t", none, none, .table⟩

theorem fails_lostNetwork :
    Fails stepEnvironment lostNetwork (.versions tokenOptions false) "Request failed: 50%\nlost" :=
  Versions.result_text_eq_failed_iff.1 (by decide +kernel)

/-- The lost connection is reported on one line. -/
theorem reports_lostNetwork :
    isActive stepEnvironment = true ∧
      Fails stepEnvironment lostNetwork (.versions tokenOptions false) "Request failed: 50%\nlost" ∧
      (Job.run stepEnvironment lostNetwork stepDisk "1" (.versions tokenOptions false)).Reports
        "Request failed: 50%\nlost" stepDisk := by
  have ha : isActive stepEnvironment = true := rfl
  have hn : noticeFault? "Error:" "Request failed: 50%\nlost" = none := by decide +kernel
  obtain ⟨-, -, hr, -⟩ := reports_iff_of_fails ha fails_lostNetwork stepDisk "1"
  exact ⟨ha, fails_lostNetwork, hr.2 hn⟩

end ClusterMatrix.Run

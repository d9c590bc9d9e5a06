import ClusterMatrix.Run.Stage
import ClusterMatrix.Workflow.Input

/-!
# Outcomes

All that a run leaves behind. A run that fails tells the user why and, in a workflow, reports the message as a
command on standard output.

Standard output is taken for a stream of code points, in which a half of a character can stand. A stream that has to
encode them would refuse it.
-/

namespace ClusterMatrix.Run

structure Outcome where
  exitCode : Nat
  /-- The code points of the standard output. -/
  printed : List Nat
  events : List Event
  requests : List Http.Request
  disk : Workflow.Disk
  unhandled : Option Unhandled

namespace Outcome

variable {A : Type}

/-- The standard output as it is shown: a replacement character stands for a half of a character. -/
def stdout (o : Outcome) : List Char := o.printed.map Text.shownCode

theorem stdout_of_printed {o : Outcome} {s : List Char} (h : o.printed = Text.codesOf s) : o.stdout = s := by
  rw [stdout, h, Text.map_shownCode_codesOf]

/-- Misused arguments end a run before it begins. -/
def misuse (disk : Workflow.Disk) : Outcome := ⟨2, [], [], [], disk, none⟩

/-- What a run that fails with a message writes to standard output. -/
def annotation (message : String) (env : Environment) : List Char :=
  if Workflow.isActive env then (Workflow.Command.error message).line else []

/-- A run that stopped in a stage. The notice of a failure may not be shown. -/
def stopped (stage : Stage A) (s : Stop) (env : Environment) (disk : Workflow.Disk) : Outcome :=
  match s with
  | .unhandled u => ⟨1, [], stage.events, stage.requests, disk, some u⟩
  | .failed message =>
    let events := stage.events ++ [.error message]
    match noticeFault? "Error:" message with
    | none => ⟨1, Text.codesOf <| annotation message env, events, stage.requests, disk, none⟩
    | some f => ⟨1, [], events, stage.requests, disk, some (.markup f)⟩

end Outcome

end ClusterMatrix.Run

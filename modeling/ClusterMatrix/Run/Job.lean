import ClusterMatrix.Run.Matrix
import ClusterMatrix.Run.Versions

/-! # Runs of the command line -/

namespace ClusterMatrix

/-- A run of a job. The identifier goes into the delimiter of a record. -/
def Job.run (env : Environment) (network : Http.Network) (disk : Workflow.Disk) (id : String) :
    Job → Run.Outcome
  | .matrix options verbose => Run.Matrix.run options verbose env network disk id
  | .versions options latest => Run.Versions.run options latest env network disk

/-- A run with the given arguments. -/
def run (arguments : List String) (env : Environment) (network : Http.Network) (disk : Workflow.Disk)
    (id : String) : Run.Outcome :=
  match Job.ofArguments? arguments with
  | none => .misuse disk
  | some job => job.run env network disk id

end ClusterMatrix

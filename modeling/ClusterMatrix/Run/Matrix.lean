import ClusterMatrix.Options
import ClusterMatrix.Run.Catalog
import ClusterMatrix.Run.Outcome
import ClusterMatrix.Run.Tables

/-!
# The matrix job

Selects the latest version of each allowed distribution, sets the output of the workflow step, and prints the
selections. Options come before the inputs of the step.
-/

namespace ClusterMatrix.Run.Matrix

def distributionsInput : String := "include-distributions"

def outputName : String := "versions-to-test"

def settle (options : Options) (env : Environment) : Stage Settings :=
  Run.settle (optionOrInput options.token tokenInput env)
    (optionOrInput options.distributions distributionsInput env) env options.endpoint

/-- Reports the allowed distributions that the catalog lacks. -/
def reportMissing (missing : List Text) : Stage Unit :=
  if missing = [] then pure ()
  else .report [.log .warning (.concat ("Distributions not available: " :: missing.intersperse ", "))]

/-- All that comes before the output is set. -/
def choose (options : Options) (verbose : Bool) (env : Environment) (network : Http.Network) :
    Stage (List Catalog.Selection) := do
  let least : Level := if verbose then .debug else .info
  let settings ← settle options env
  Stage.inform (.concat ("Distributions: " :: settings.distributions.names.intersperse ", "))
  let catalog ← download least settings network
  let missing ← .orAbort .catalog (Catalog.missing settings.distributions catalog)
  reportMissing missing
  let selections ← conclude least (Catalog.select settings.distributions catalog)
  Stage.report [.log .info ("Versions to test: " ++ String.ofList (selectionsText selections))]
  return selections

/-- Sets the output in a workflow; elsewhere it does nothing. -/
def publish (selections : List Catalog.Selection) (id : String) (env : Environment) (disk : Workflow.Disk) :
    Except Workflow.FileFault (Workflow.Disk × List Char) :=
  if Workflow.isActive env then
    Workflow.setOutput ⟨outputName, String.ofList (selectionsText selections)⟩ id env disk
  else .ok (disk, [])

/-- What is printed of the selections. -/
def printed (format : Format) (selections : List Catalog.Selection) : Except Unhandled (List Char) :=
  match format with
  | .json => .ok (selectionsText selections ++ ['\n'])
  | .table => drawn (selectionTable selections)

def run (options : Options) (verbose : Bool) (env : Environment) (network : Http.Network)
    (disk : Workflow.Disk) (id : String) : Outcome :=
  let chosen := choose options verbose env network
  match chosen.result with
  | .error s => .stopped chosen s env disk
  | .ok selections => match publish selections id env disk with
    | .error f => ⟨1, [], chosen.events, chosen.requests, disk, some (.file f)⟩
    | .ok (disk, written) => match printed options.format selections with
      | .error u => ⟨1, Text.codesOf written, chosen.events, chosen.requests, disk, some u⟩
      | .ok text =>
        let done := "Selected " ++ toString selections.length ++ " versions to test"
        ⟨0, Text.codesOf (written ++ text), chosen.events ++ [.success done], chosen.requests, disk, none⟩

end ClusterMatrix.Run.Matrix

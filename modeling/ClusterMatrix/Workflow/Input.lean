import ClusterMatrix.Environment
import ClusterMatrix.Text.Blank
import ClusterMatrix.Text.Upper

/-! # Workflow inputs -/

namespace ClusterMatrix.Workflow

/-- The variable of an input: its name in upper case, with underscores for blanks. -/
def inputVariable (name : String) : String :=
  "INPUT_" ++ String.ofList (Text.upper (name.toList.map fun c ↦ if c = ' ' then '_' else c))

/-- The trimmed value of an input, unless nothing is left of it. -/
def input? (name : String) (env : Environment) : Option String :=
  match env.get? (inputVariable name) with
  | none => none
  | some value => given? (some (String.ofList (Text.trim value.toList)))

def activeVariable : String := "GITHUB_ACTIONS"

/-- The run is a step of a workflow. -/
def isActive (env : Environment) : Bool := env.get? activeVariable = some "true"

end ClusterMatrix.Workflow

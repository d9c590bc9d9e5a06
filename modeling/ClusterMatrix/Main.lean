import ClusterMatrix.Run.Job

/-!
# The program

Runs a job with the arguments of the command line and the variables of the process. The body with which the
endpoint answers is read from standard input, and a record for the workflow goes to the file that the
environment names.
-/

namespace ClusterMatrix.Program

/-- The variables that a run looks up. -/
def variableNames : List String :=
  [credentialVariable, Workflow.inputVariable Run.tokenInput,
    Workflow.inputVariable Run.Matrix.distributionsInput, Workflow.outputVariable,
    Workflow.activeVariable]

def environment : IO Environment := do
  let values ← variableNames.mapM fun name ↦ do return (← IO.getEnv name).map (name, ·)
  return ⟨values.filterMap id⟩

partial def body (stream : IO.FS.Stream) : IO (List UInt8) := do
  let bytes ← stream.read 65536
  if bytes.isEmpty then return []
  return bytes.toList ++ (← body stream)

/-- The network on which the endpoint answers with the given body. -/
def network (body : List UInt8) : Http.Network :=
  ⟨.response ⟨200, [("Content-Type", "application/json")], body⟩, []⟩

def identifier : IO String := do
  let bytes ← IO.getRandomBytes 16
  return String.ofList (bytes.toList.flatMap fun b ↦ Text.hexDigits 2 b.toNat)

def levelName : Level → String
  | .debug => "DEBUG"
  | .info => "INFO"
  | .warning => "WARNING"

def notice : Event → String
  | .log level text => levelName level ++ " " ++ text.shown
  | .info text => "i " ++ text.shown
  | .error text => "Error: " ++ text
  | .success text => "✓ " ++ text

/-- Appends the records of a run to the file that the environment names. -/
def save (disk : Workflow.Disk) : IO Unit :=
  match disk.content with
  | some text => do
    let file ← IO.FS.Handle.mk disk.path .append
    file.putStr text
  | none => pure ()

end ClusterMatrix.Program

open ClusterMatrix in
def main (arguments : List String) : IO UInt32 := do
  let environment ← Program.environment
  let answer ← Program.body (← IO.getStdin)
  let path := (Workflow.outputPath? environment).getD ""
  let outcome := run arguments environment (Program.network answer) ⟨path, none, [], []⟩
    (← Program.identifier)
  outcome.events.forM fun e ↦ IO.eprintln (Program.notice e)
  Program.save outcome.disk
  IO.print (String.ofList outcome.stdout)
  return UInt32.ofNat outcome.exitCode

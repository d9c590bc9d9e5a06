import ClusterMatrix.Workflow.Input
import ClusterMatrix.Workflow.Output

/-!
# Sessions with a workflow runner

A session is a sequence of calls under one environment. Each call gets a reply, and may change the
watched file and write to standard output. The identifier that a call brings along goes into the
delimiter, if a record is written.
-/

namespace ClusterMatrix.Workflow

inductive Call where
  | setOutput (r : Record)
  /-- Sets an output whose name or value is a ragged text, which has no bytes. -/
  | setRagged
  | setFailed (message : String)
  | getInput (name : String)
  | isActive
deriving DecidableEq, Repr

inductive Reply where
  | done
  | input (value : Option String)
  | active (b : Bool)
  | fault (f : FileFault)
deriving DecidableEq, Repr

structure Session where
  environment : Environment
  disk : Disk

/-- The session after a call, the reply, and what the call writes to standard output. -/
def Session.call (s : Session) (id : String) : Call → Session × Reply × List Char
  | .setOutput r => match setOutput r id s.environment s.disk with
    | .ok (disk, written) => ({ s with disk }, .done, written)
    | .error f => (s, .fault f, [])
  | .setRagged => match openOutput s.environment s.disk with
    | .ok disk => ({ s with disk }, .fault .noBytes, [])
    | .error f => (s, .fault f, [])
  | .setFailed message => (s, .done, (Command.error message).line)
  | .getInput name => (s, .input (input? name s.environment), [])
  | .isActive => (s, .active (isActive s.environment), [])

/-- The session after some calls, each with its identifier, and all that they write. -/
def Session.run (s : Session) : List (String × Call) → Session × List Char
  | [] => (s, [])
  | (id, c) :: cs =>
    let (s, _, written) := s.call id c
    let (s, later) := s.run cs
    (s, written ++ later)

end ClusterMatrix.Workflow

import ClusterMatrix.Text.Basic

/-! # Events: what a run reports besides its output -/

namespace ClusterMatrix

inductive Level where
  | debug
  | info
  | warning
deriving DecidableEq, Repr

/-- A log record, or a notice to the user. -/
inductive Event where
  | log (level : Level) (text : Text)
  | info (text : Text)
  | error (text : String)
  | success (text : String)
deriving DecidableEq, Repr

/-- The event passes a run whose log begins at `least`; notices always pass. -/
def Event.passes (least : Level) : Event → Bool
  | .log level _ => match least, level with
    | .debug, _ => true
    | .info, .debug => false
    | .info, _ => true
    | .warning, .warning => true
    | .warning, _ => false
  | _ => true

end ClusterMatrix

import ClusterMatrix.Catalog.Selection
import ClusterMatrix.Fetch
import ClusterMatrix.Json.Compact
import ClusterMatrix.Json.Indented
import ClusterMatrix.Run.Stage
import ClusterMatrix.Settings
import ClusterMatrix.Workflow.Input

/-!
# From settings to selections

The stages that the jobs share: settings, the fetch of the catalog, and the selections of a review. Of the
log, a run keeps what passes its least level.

Messages go to standard error, which is taken to be no terminal. On a terminal the fetch would show its progress there,
and until it ends such a display would draw what is written to standard output to standard error too.
-/

namespace ClusterMatrix.Run

def tokenInput : String := "replicated-api-token"

/-- An option that is given, or else an input of the workflow step. -/
def optionOrInput (option : Option String) (input : String) (env : Environment) : Option String :=
  (given? option).or (Workflow.input? input env)

/-- The settings of a run. -/
def settle (credential distributions : Option String) (env : Environment) (endpoint : Option String) :
    Stage Settings :=
  match Settings.load credential distributions env endpoint with
  | .ok settings => pure settings
  | .error (.misconfigured why) => .fail why.message
  | .error .longInteger => .abort .longInteger

/-- What a run makes of a fault of the fetch. -/
def stopOfFault : FetchFault → Stop
  | .transport e => .failed e.message
  | .breakdown b => .unhandled (.breakdown b)

/-- Fetches the catalog. -/
def download (least : Level) (settings : Settings) (network : Http.Network) : Stage (List Json) :=
  let fetched := fetch settings.credential settings.endpoint Fetch.defaultTimeout network
  ⟨fetched.events.filter (Event.passes least), fetched.requests,
    match fetched.result with
    | .ok catalog => .ok catalog
    | .error f => .error (stopOfFault f)⟩

/-- What a run makes of a fault of the catalog: only a malformed version has a message. -/
def stopOfCatalog (f : Catalog.Fault) : Stop :=
  match f.message? with
  | some message => .failed message
  | none => .unhandled (.catalog f)

/-- The selections of a review. -/
def conclude (least : Level) (review : Catalog.Review) : Stage (List Catalog.Selection) :=
  ⟨review.events.filter (Event.passes least), [],
    match review.selections with
    | .ok selections => .ok selections
    | .error f => .error (stopOfCatalog f)⟩

/-- The text of selections on one line. -/
def selectionsText (selections : List Catalog.Selection) : List Char :=
  (Json.arr (selections.map Catalog.Selection.toJson)).compact

/-- The text of some values over several lines. -/
def listing (values : List Json) : List Nat := Json.indented 0 (.arr values) ++ Text.codesOf ['\n']

end ClusterMatrix.Run

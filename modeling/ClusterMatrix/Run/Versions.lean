import ClusterMatrix.Options
import ClusterMatrix.Run.Catalog
import ClusterMatrix.Run.Outcome
import ClusterMatrix.Run.Tables

/-!
# The versions job

Lists the catalog, or the latest version of each of its distributions. An allow list that is empty or not given
lets every distribution through. No output is set.
-/

namespace ClusterMatrix.Run.Versions

/-- The allow list that stands for all distributions. -/
def everything : String := "[]"

def settle (options : Options) (env : Environment) : Stage Settings :=
  Run.settle (optionOrInput options.token tokenInput env)
    (some ((given? options.distributions).getD everything)) env options.endpoint

/-- The entries that an allow list lets through. -/
def restricted (allow : AllowList) (catalog : List Json) : Stage (List Json) :=
  if allow.isEmpty then pure catalog else .orAbort .catalog (Catalog.restrict allow catalog)

/-- The latest versions of all entries. -/
def latest (catalog : List Json) : Stage (List Catalog.Selection) := do
  let _ ← .orAbort .catalog (Catalog.names catalog)
  conclude .info (Catalog.selectAll catalog)

/-- The catalog of a run. -/
def listed (options : Options) (env : Environment) (network : Http.Network) : Stage (List Json) := do
  let settings ← settle options env
  let catalog ← download .info settings network
  restricted settings.distributions catalog

def latestText (format : Format) (catalog : List Json) : Stage (List Nat) := do
  let selections ← latest catalog
  match format with
  | .json => return listing (selections.map Catalog.Selection.toJson)
  | .table => .orAbort id ((drawn (selectionTable selections)).map Text.codesOf)

def catalogText (format : Format) (catalog : List Json) : Stage (List Nat) :=
  match format with
  | .json => pure (listing catalog)
  | .table => .orAbort id ((drawn (catalogTable catalog)).map Text.codesOf)

/-- What is printed. -/
def text (options : Options) (latest : Bool) (env : Environment) (network : Http.Network) :
    Stage (List Nat) := do
  let catalog ← listed options env network
  if latest then latestText options.format catalog else catalogText options.format catalog

def run (options : Options) (latest : Bool) (env : Environment) (network : Http.Network)
    (disk : Workflow.Disk) : Outcome :=
  let printed := text options latest env network
  match printed.result with
  | .error s => .stopped printed s env disk
  | .ok text => ⟨0, text, printed.events, printed.requests, disk, none⟩

end ClusterMatrix.Run.Versions

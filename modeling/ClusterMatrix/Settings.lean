import ClusterMatrix.AllowList
import ClusterMatrix.Environment
import ClusterMatrix.Json.Reader

/-!
# Settings

What a run needs to know: the credential, the allowed distributions and the endpoint. The credential
is looked up before the distributions are read, so its fault wins.
-/

namespace ClusterMatrix

structure Settings where
  credential : String
  distributions : AllowList
  endpoint : String
deriving DecidableEq

/-- What is wrong with the settings that a user gave. -/
inductive Misconfiguration where
  | noCredential
  | noDistributions
  | notJson (fault : Json.Fault)
  | notArray
  | notTexts
deriving DecidableEq, Repr

def credentialVariable : String := "REPLICATED_API_TOKEN"

def Misconfiguration.message : Misconfiguration → String
  | .noCredential => "No API token provided, set the token input or " ++ credentialVariable
  | .noDistributions => "No distributions provided to include"
  | .notJson fault => "Distributions to include must be valid JSON: " ++ fault.message
  | .notArray => "Distributions to include must be a JSON array"
  | .notTexts => "Distributions to include must be strings"

namespace Settings

/-- Why there are no settings. An integer literal that is too long to read is no misconfiguration. -/
inductive Refusal where
  | misconfigured (why : Misconfiguration)
  | longInteger
deriving DecidableEq, Repr

def defaultEndpoint : String := "https://api.replicated.com/vendor/v3/cluster/versions"

/-- An explicit credential comes before the one in the environment, and an empty one counts as none. -/
def resolveCredential (explicit : Option String) (env : Environment) : Except Misconfiguration String :=
  match given? explicit with
  | some c => .ok c
  | none => match given? (env.get? credentialVariable) with
    | some c => .ok c
    | none => .error .noCredential

/-- The texts that a list of values holds, if all of them are texts. -/
def texts? : List Json → Option (List Text)
  | [] => some []
  | v :: vs => match v.toText?, texts? vs with
    | some t, some names => some (t :: names)
    | _, _ => none

/-- The names that reading a text comes to: the texts of an array. -/
def namesOf : Except Json.ReadError Json → Except Refusal AllowList
  | .error (.fault f) => .error (.misconfigured (.notJson f))
  | .error .longInteger => .error .longInteger
  | .ok (.arr vs) => match texts? vs with
    | some names => .ok (.ofList names)
    | none => .error (.misconfigured .notTexts)
  | .ok _ => .error (.misconfigured .notArray)

/-- Reads a JSON array of names. -/
def parseDistributions (raw : Option String) : Except Refusal AllowList :=
  match given? raw with
  | none => .error (.misconfigured .noDistributions)
  | some text => namesOf (Json.parse text.toList)

/-- Reads a JSON array of names with room for only so many arrays and objects that are open at once. A text that goes
deeper gives neither names nor a refusal. -/
def parseDistributionsWithin (room : Nat) (raw : Option String) : Option (Except Refusal AllowList) :=
  match given? raw with
  | none => some (.error (.misconfigured .noDistributions))
  | some text => (Json.parseWithin room text.toList).map namesOf

def load (credential distributions : Option String) (env : Environment)
    (endpoint : Option String) : Except Refusal Settings :=
  match resolveCredential credential env with
  | .error why => .error (.misconfigured why)
  | .ok c => match parseDistributions distributions with
    | .error r => .error r
    | .ok names => .ok ⟨c, names, (given? endpoint).getD defaultEndpoint⟩

end Settings

end ClusterMatrix

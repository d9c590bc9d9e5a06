import ClusterMatrix.Event
import ClusterMatrix.Http.Client

/-!
# Fetching the catalog

The catalog is the array under `cluster-versions` in the JSON object that the endpoint answers with. The
first check that fails names the fault: sending, status, JSON, shape.
-/

namespace ClusterMatrix

/-- What a failed fetch goes back to. -/
inductive FetchCause where
  | transport (kind : String)
  | endpoint (f : Http.Endpoint.Fault)
  | body (f : Http.BodyFault)
  | text (f : Charset.TextFault)
  | badHeader
  | tooManyRedirects
  | notJson
  | longInteger
deriving DecidableEq, Repr

structure TransportError where
  message : String
  status : Option Nat
  cause : Option FetchCause
deriving DecidableEq, Repr

/-- Why there is no catalog. What the transport has no name for is no transport error. -/
inductive FetchFault where
  | transport (e : TransportError)
  | breakdown (b : Http.Breakdown)
deriving DecidableEq, Repr

/-- All that a fetch does. -/
structure Fetch where
  events : List Event
  requests : List Http.Request
  result : Except FetchFault (List Json)

namespace Fetch

def catalogKey : String := "cluster-versions"

def defaultTimeout : Http.Seconds := .whole 30

def failed (cause : FetchCause) (message : String) : FetchFault :=
  .transport ⟨"Request failed: " ++ message, none, some cause⟩

def ofSendFault : Http.SendFault → FetchFault
  | .endpoint f => failed (.endpoint f) f.message
  | .badHeader value => failed .badHeader
      ("Invalid leading whitespace, reserved character(s), or return character(s) in header value: " ++
        String.ofList (Text.quoted value.toList))
  | .transport kind message => failed (.transport kind) message
  | .tooManyRedirects => failed .tooManyRedirects
      ("Exceeded " ++ toString Http.maxRedirects ++ " redirects.")
  | .body f => failed (.body f) f.message
  | .breakdown b => .breakdown b

def notJson (status : Nat) (f : Http.ContentFault) : TransportError :=
  ⟨"Response body is not valid JSON", some status,
    some (match f with
      | .text f => .text f
      | .json (.fault _) => .notJson
      | .json .longInteger => .longInteger)⟩

def noCatalog (status : Nat) : TransportError :=
  ⟨"Response is missing the cluster-versions list", some status, none⟩

/-- The catalog that a response holds. -/
def catalogOf (r : Http.Response) : Except TransportError (List Json) :=
  if r.status ≠ 200 then
    .error ⟨"Request failed with status code " ++ toString r.status, some r.status, none⟩
  else match r.json with
    | .error f => .error (notJson r.status f)
    | .ok payload => match payload.get? catalogKey with
      | some (.arr entries) => .ok entries
      | _ => .error (noCatalog r.status)

end Fetch

def fetch (credential endpoint : String) (timeout : Http.Seconds) (network : Http.Network) : Fetch :=
  let exchange := Http.get endpoint credential timeout network
  let started : Event := .log .debug ("Fetching cluster versions from " ++ endpoint)
  match exchange.result with
  | .error f => ⟨[started], exchange.requests, .error (Fetch.ofSendFault f)⟩
  | .ok response => match Fetch.catalogOf response with
    | .error e => ⟨[started], exchange.requests, .error (.transport e)⟩
    | .ok entries =>
      ⟨[started, .log .debug ("Fetched " ++ toString entries.length ++ " distributions")],
        exchange.requests, .ok entries⟩

end ClusterMatrix

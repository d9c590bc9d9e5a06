import ClusterMatrix.Proofs.Http.Bodies
import ClusterMatrix.Proofs.Http.Requests
import ClusterMatrix.Proofs.Json.Members

/-!
# Single answers

A request that can be made at all is sent once, unless an answer redirects it. What a fetch comes to then depends on the
answer alone, and is told by the first check that the answer does not pass: the sending, the status, the text, the JSON
in it, and the array under the key of the catalog. If this key is written several times the last one counts.
-/

namespace ClusterMatrix

open Json (IsDocument IsLast IsObjectDocument IsShort)

/-! ## Requests -/

namespace Http

/-- The request can be made of an endpoint and a credential: the endpoint makes an address that a transport takes, the
credential can be the value of a header, and so can the user information in the address that takes its place. -/
structure Accepts (endpoint credential : String) (timeout : Seconds) (request : Request) : Prop where
  address : Endpoint.prepare endpoint = .ok request.url
  transport : Endpoint.hasTransport request.url = true
  header : isHeaderValue credential.toList = true
  authorization : ∃ r basic, Reference.read? request.url.toList = some r ∧ basicAuthorization r = .ok basic ∧
    request.authorization = some (basic.getD credential)
  timeout : request.timeout = timeout

/-- The answer is no redirect, and if there is a body it can be read. -/
inductive Answer.IsPlain : Answer → Prop where
  | failure (kind message : String) : IsPlain (.failure kind message)
  | broken : IsPlain .broken
  | response {r : Response} {body : List UInt8} (hl : r.lengths.length ≤ 1) (hr : r.location? = none)
      (hb : r.content = .ok body) : IsPlain (.response r)

variable {endpoint credential : String} {timeout : Seconds} {request : Request} {network : Network} {a : Answer}

/-- What a request gets that is sent once. -/
def Answer.outcome : Answer → Except SendFault Response
  | .failure kind message => .error (.transport kind message)
  | .broken => .error (.breakdown .system)
  | .response r => received r

theorem Answer.IsPlain.meaning_eq (h : a.IsPlain) (request : Request) (fragment : List Char) :
    a.meaning request fragment = a.outcome.map .inl := by
  cases h with
  | failure kind message => rfl
  | broken => rfl
  | response hl hr hb => rw [Answer.meaning, if_neg (Nat.not_lt.2 hl), hr, outcome]

/-- A request that meets a plain answer is not sent again. -/
theorem follow_of_isPlain (ht : Endpoint.hasTransport request.url = true) (hp : network.next.IsPlain) (more : Nat)
    (fragment : List Char) : follow request.timeout more request.url request.authorization fragment network =
      ⟨[request], network.next.outcome⟩ := by
  rw [follow, if_neg (by rw [ht]; exact Bool.false_ne_true)]
  dsimp only
  rw [hp.meaning_eq]
  cases network.next.outcome with
  | error f => rfl
  | ok r => rfl

theorem exists_get_eq_follow (h : Accepts endpoint credential timeout request) (network : Network) :
    ∃ fragment, get endpoint credential timeout network =
      follow request.timeout maxRedirects request.url request.authorization fragment network := by
  obtain ⟨r, basic, hread, hbasic, hauthorization⟩ := h.authorization
  refine ⟨r.fragment, ?_⟩
  rw [get, h.address]
  dsimp only
  rw [if_neg (by rw [h.header]; exact Bool.false_ne_true), hread]
  dsimp only
  rw [hbasic]
  dsimp only
  rw [hauthorization, h.timeout]

theorem get_of_accepts (h : Accepts endpoint credential timeout request) (hp : network.next.IsPlain) :
    get endpoint credential timeout network = ⟨[request], network.next.outcome⟩ := by
  obtain ⟨fragment, hget⟩ := exists_get_eq_follow h network
  rw [hget, follow_of_isPlain h.transport hp]

/-- The first request, whatever it meets. -/
theorem head?_requests_follow (more : Nat) (address : String) (authorization : Option String) (fragment : List Char) :
    (follow timeout more address authorization fragment network).requests.head? =
      if Endpoint.hasTransport address then some ⟨address, authorization, timeout⟩ else none := by
  rw [follow]
  cases Endpoint.hasTransport address with
  | false => rfl
  | true =>
    rw [if_pos rfl, if_neg (by exact Bool.false_ne_true)]
    dsimp only
    split <;> rfl

/-- Requests are sent just if one can be made, and it comes first. -/
theorem head?_requests_get_eq_some_iff : (get endpoint credential timeout network).requests.head? = some request ↔
    Accepts endpoint credential timeout request := by
  constructor
  · intro h
    unfold get at h
    split at h
    · cases h
    · rename_i address hprepare
      split at h
      · cases h
      · rename_i hheader
        split at h
        · cases h
        · rename_i r hread
          split at h
          · cases h
          · rename_i basic hbasic
            rw [head?_requests_follow] at h
            split at h
            · rename_i htransport
              obtain rfl := Option.some.inj h
              exact ⟨hprepare, htransport, by simpa using hheader, ⟨r, basic, hread, hbasic, rfl⟩, rfl⟩
            · cases h
  · intro h
    obtain ⟨fragment, hget⟩ := exists_get_eq_follow h network
    rw [hget, head?_requests_follow, if_pos h.transport]

end Http

/-! ## Catalogs -/

namespace Fetch

variable {r : Http.Response} {x : Except TransportError (List Json)} {text : List Char}
  {pairs : List (Text × Json)} {entries : List Json}

/-- What comes of a response that was received, by the first check that it does not pass. -/
inductive Holds (r : Http.Response) : Except TransportError (List Json) → Prop where
  | badStatus (hs : r.status ≠ 200) :
      Holds r (.error ⟨"Request failed with status code " ++ toString r.status, some r.status, none⟩)
  | undecoded {cause : FetchCause} (hs : r.status = 200) (h : Http.Undecoded r cause) :
      Holds r (.error ⟨"Response body is not valid JSON", some 200, some cause⟩)
  | notObject {text : List Char} {v : Json} (hs : r.status = 200) (ht : r.bodyText = .ok text)
      (hv : IsDocument IsShort v text) (ho : ∀ ms, v ≠ .obj ms) :
      Holds r (.error ⟨"Response is missing the cluster-versions list", some 200, none⟩)
  | noCatalog {text : List Char} {pairs : List (Text × Json)} (hs : r.status = 200) (ht : r.bodyText = .ok text)
      (ho : IsObjectDocument IsShort pairs text) (hl : ∀ entries, ¬ IsLast "cluster-versions" (.arr entries) pairs) :
      Holds r (.error ⟨"Response is missing the cluster-versions list", some 200, none⟩)
  | catalog {text : List Char} {pairs : List (Text × Json)} {entries : List Json} (hs : r.status = 200)
      (ht : r.bodyText = .ok text) (ho : IsObjectDocument IsShort pairs text)
      (hl : IsLast "cluster-versions" (.arr entries) pairs) : Holds r (.ok entries)

theorem json_of_object (ht : r.bodyText = .ok text) (ho : IsObjectDocument IsShort pairs text) :
    r.json = .ok (.obj (Json.membersOf pairs)) :=
  Http.json_eq_ok_iff.2 ⟨text, ht, Json.isDocument_obj_iff.2 ⟨pairs, ho, rfl⟩⟩

theorem catalogOf_of_json_eq_error {f : Http.ContentFault} (hs : r.status = 200) (h : r.json = .error f) :
    catalogOf r = .error ⟨"Response body is not valid JSON", some 200, some f.cause⟩ := by
  rw [catalogOf, if_neg (not_not_intro hs), h, hs]
  rcases f with f | f | - <;> rfl

theorem catalogOf_of_catalog {v : Json} (hs : r.status = 200) (h : r.json = .ok v)
    (hv : v.get? catalogKey = some (.arr entries)) : catalogOf r = .ok entries := by
  rw [catalogOf, if_neg (not_not_intro hs), h]
  dsimp only
  rw [hv]

theorem catalogOf_of_not_catalog {v : Json} (hs : r.status = 200) (h : r.json = .ok v)
    (hv : ∀ entries, v.get? catalogKey ≠ some (.arr entries)) :
    catalogOf r = .error ⟨"Response is missing the cluster-versions list", some 200, none⟩ := by
  rw [catalogOf, if_neg (not_not_intro hs), h, hs]
  dsimp only
  split
  · rename_i entries he
    exact absurd he (hv entries)
  · rfl

/-- No response falls under two rules that differ in what comes of it. -/
theorem catalogOf_of_holds (h : Holds r x) : catalogOf r = x := by
  cases h with
  | badStatus hs => rw [catalogOf, if_pos hs]
  | undecoded hs h =>
    obtain ⟨f, hf, rfl⟩ := Http.exists_json_of_undecoded h
    exact catalogOf_of_json_eq_error hs hf
  | notObject hs ht hv ho =>
    refine catalogOf_of_not_catalog hs (Http.json_eq_ok_iff.2 ⟨_, ht, hv⟩) fun entries ↦ ?_
    rename_i v
    cases v with
    | obj ms => exact absurd rfl (ho ms)
    | _ => nofun
  | noCatalog hs ht ho hl =>
    refine catalogOf_of_not_catalog hs (json_of_object ht ho) fun entries he ↦ ?_
    exact hl entries (Json.lookup_membersOf_eq_some_iff.1 he)
  | catalog hs ht ho hl =>
    exact catalogOf_of_catalog hs (json_of_object ht ho) (Json.lookup_membersOf_eq_some_iff.2 hl)

/-- Every response falls under a rule. -/
theorem holds_catalogOf (r : Http.Response) : Holds r (catalogOf r) := by
  by_cases hs : r.status = 200
  · cases hj : r.json with
    | error f =>
      rw [catalogOf_of_json_eq_error hs hj]
      exact .undecoded hs (Http.undecoded_of_json hj)
    | ok v =>
      obtain ⟨text, ht, hv⟩ := Http.json_eq_ok_iff.1 hj
      by_cases ho : ∃ ms, v = .obj ms
      · obtain ⟨ms, rfl⟩ := ho
        obtain ⟨pairs, ho, rfl⟩ := Json.isDocument_obj_iff.1 hv
        by_cases hl : ∃ entries, IsLast catalogKey (.arr entries) pairs
        · obtain ⟨entries, hl⟩ := hl
          rw [catalogOf_of_catalog hs hj (Json.lookup_membersOf_eq_some_iff.2 hl)]
          exact .catalog hs ht ho hl
        · rw [not_exists] at hl
          have h := Holds.noCatalog hs ht ho hl
          rwa [← catalogOf_of_holds h] at h
      · rw [not_exists] at ho
        have h := Holds.notObject hs ht hv ho
        rwa [← catalogOf_of_holds h] at h
  · rw [catalogOf, if_pos hs]
    exact .badStatus hs

/-- What comes of a single answer. -/
inductive Brings : Http.Answer → Except FetchFault (List Json) → Prop where
  | failure (kind message : String) : Brings (.failure kind message)
      (.error (.transport ⟨"Request failed: " ++ message, none, some (.transport kind)⟩))
  | broken : Brings .broken (.error (.breakdown .system))
  | response {r : Http.Response} {body : List UInt8} {x : Except TransportError (List Json)}
      (hb : r.content = .ok body) (h : Holds { r with body } x) : Brings (.response r) (x.mapError .transport)

/-- The result of a fetch, from the response to the last request or what stands in its place. -/
def ofOutcome : Except Http.SendFault Http.Response → Except FetchFault (List Json)
  | .error f => .error (ofSendFault f)
  | .ok r => (catalogOf r).mapError .transport

theorem brings_iff {a : Http.Answer} {result : Except FetchFault (List Json)} (hp : a.IsPlain) :
    Brings a result ↔ ofOutcome a.outcome = result := by
  cases hp with
  | failure kind message =>
    constructor
    · rintro ⟨⟩
      rfl
    · rintro rfl
      exact .failure kind message
  | broken =>
    constructor
    · rintro ⟨⟩
      rfl
    · rintro rfl
      exact .broken
  | @response r body hl hr hb =>
    have ho : (Http.Answer.response r).outcome = .ok { r with body } := by
      rw [Http.Answer.outcome, Http.received, hb]
    rw [ho]
    constructor
    · rintro ⟨⟩
      rename_i hb' h
      rw [hb] at hb'
      obtain rfl := Except.ok.inj hb'
      rw [ofOutcome, catalogOf_of_holds h]
    · rintro rfl
      exact .response hb (holds_catalogOf _)

end Fetch

theorem result_fetch (credential endpoint : String) (timeout : Http.Seconds) (network : Http.Network) :
    (fetch credential endpoint timeout network).result =
      Fetch.ofOutcome (Http.get endpoint credential timeout network).result := by
  unfold fetch
  dsimp only
  cases (Http.get endpoint credential timeout network).result with
  | error f => rfl
  | ok r =>
    dsimp only [Fetch.ofOutcome]
    cases Fetch.catalogOf r <;> rfl

/-- The fetch sends one request, and a rule tells what comes of the answer to it. It returns just if the status is 200 and
the body denotes an object with an array as the last value under the key of the catalog, and it returns this array. -/
structure FetchesOnce (request : Http.Request) (answer : Http.Answer) (f : Fetch) : Prop where
  requests : f.requests = [request]
  result_iff : ∀ result, f.result = result ↔ Fetch.Brings answer result
  returns_iff : ∀ entries, f.result = .ok entries ↔ ∃ r body text pairs, answer = .response r ∧ r.status = 200 ∧
    r.content = .ok body ∧ Http.Response.bodyText { r with body } = .ok text ∧ IsObjectDocument IsShort pairs text ∧
    IsLast "cluster-versions" (.arr entries) pairs

theorem Fetch.brings_ok_iff {answer : Http.Answer} {entries : List Json} :
    Brings answer (.ok entries) ↔ ∃ r body text pairs, answer = .response r ∧ r.status = 200 ∧
      r.content = .ok body ∧ Http.Response.bodyText { r with body } = .ok text ∧ IsObjectDocument IsShort pairs text ∧
      IsLast "cluster-versions" (.arr entries) pairs := by
  constructor
  · intro h
    generalize hx : Except.ok entries = result at h
    cases h with
    | failure kind message => cases hx
    | broken => cases hx
    | @response r body x hb h =>
      cases h with
      | catalog hs ht ho hl =>
        cases hx
        exact ⟨r, body, _, _, rfl, hs, hb, ht, ho, hl⟩
      | _ => cases hx
  · rintro ⟨r, body, text, pairs, rfl, hs, hb, ht, ho, hl⟩
    exact .response hb (.catalog hs ht ho hl)

/-- A response with an object in which the key of the catalog comes twice. -/
def repeatedResponse : Http.Response :=
  ⟨200, [], "\x7b\"cluster-versions\": 1, \"cluster-versions\": [null]\x7d".toList.map fun c ↦ UInt8.ofNat c.toNat⟩

def repeatedNetwork : Http.Network := ⟨.response repeatedResponse, []⟩

def defaultRequest : Http.Request := ⟨Settings.defaultEndpoint, some "token", Fetch.defaultTimeout⟩

theorem accepts_defaultRequest :
    Http.Accepts Settings.defaultEndpoint "token" Fetch.defaultTimeout defaultRequest where
  address := by decide +kernel
  transport := by decide +kernel
  header := by decide +kernel
  authorization := by
    have hread : (Http.Reference.read? Settings.defaultEndpoint.toList).map Http.basicAuthorization =
        some (.ok none) := by decide +kernel
    obtain ⟨r, hr, hbasic⟩ := Option.map_eq_some_iff.1 hread
    exact ⟨r, none, hr, hbasic, rfl⟩
  timeout := rfl

theorem isPlain_repeatedNetwork : repeatedNetwork.next.IsPlain := by
  have hb : repeatedResponse.content = .ok repeatedResponse.body := by decide +kernel
  exact .response (by decide +kernel) (by decide +kernel) hb

end ClusterMatrix

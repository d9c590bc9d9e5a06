import ClusterMatrix.Fetch
import ClusterMatrix.Settings

/-!
# The first request

A fetch sends its first request with the credential that it is given, unless the endpoint brings user information along
that takes its place. Redirects only add requests behind the first one.
-/

namespace ClusterMatrix

namespace Http

/-- No user information stands in the address that requests to an endpoint go to. -/
def Endpoint.IsPlain (endpoint : String) : Prop :=
  ∀ address r, Endpoint.prepare endpoint = .ok address → Reference.read? address.toList = some r → r.userInfo? = none

variable {timeout : Seconds} {network : Network} {request : Request}

/-- Whatever a request meets on its way, it is the first one that is sent. -/
theorem authorization_of_follow {more : Nat} {address : String} {authorization : Option String} {fragment : List Char}
    (h : request ∈ (follow timeout more address authorization fragment network).requests.head?) :
    request.authorization = authorization := by
  unfold follow at h
  split at h
  · cases h
  · dsimp only at h
    split at h <;> cases h <;> rfl

theorem basicAuthorization_of_userInfo? {r : Reference} (h : r.userInfo? = none) : basicAuthorization r = .ok none := by
  rw [basicAuthorization, h]

theorem authorization_of_get {endpoint credential : String} (h : Endpoint.IsPlain endpoint)
    (hr : request ∈ (get endpoint credential timeout network).requests.head?) :
    request.authorization = some credential := by
  unfold get at hr
  split at hr
  · cases hr
  · rename_i address hprepare
    split at hr
    · cases hr
    · split at hr
      · cases hr
      · rename_i r hread
        rw [basicAuthorization_of_userInfo? (h address r hprepare hread)] at hr
        exact authorization_of_follow hr

end Http

theorem requests_fetch (credential endpoint : String) (timeout : Http.Seconds) (network : Http.Network) :
    (fetch credential endpoint timeout network).requests = (Http.get endpoint credential timeout network).requests := by
  unfold fetch
  dsimp only
  split
  · rfl
  · split
    · rfl
    · rfl

/-- The first request of a fetch carries the credential. -/
theorem authorization_of_fetch {credential endpoint : String} {timeout : Http.Seconds} {network : Http.Network}
    {request : Http.Request} (h : Http.Endpoint.IsPlain endpoint)
    (hr : request ∈ (fetch credential endpoint timeout network).requests.head?) :
    request.authorization = some credential := by
  rw [requests_fetch] at hr
  exact Http.authorization_of_get h hr

/-- The endpoint that stands in for one that is not given brings no user information. -/
theorem Settings.isPlain_defaultEndpoint : Http.Endpoint.IsPlain defaultEndpoint := by
  have hprepare : (Http.Endpoint.prepare defaultEndpoint).toOption = some defaultEndpoint := by decide +kernel
  have hread : (Http.Reference.read? defaultEndpoint.toList).bind (·.userInfo?) = none := by decide +kernel
  intro address r h hr
  rw [h] at hprepare
  obtain rfl := Option.some.inj hprepare
  rwa [hr] at hread

end ClusterMatrix

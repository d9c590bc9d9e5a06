import ClusterMatrix.Environment
import ClusterMatrix.Http.Endpoint
import ClusterMatrix.Http.Transfer

/-!
# Sending requests

A request goes to an endpoint and follows the redirects that it meets. The network is a script: the
answers that sending meets, in turn, of which the last one is met again and again.

The user's machine is taken to keep no credentials of its own for a host, as a netrc file does: these would take the
place of the header.
-/

namespace ClusterMatrix.Http

/-- What sending a request meets. -/
inductive Answer where
  | response (r : Response)
  /-- The transport failed in a way that it has a name and a message for. -/
  | failure (kind message : String)
  /-- The system failed below the transport. -/
  | broken
deriving DecidableEq, Repr

/-- The answers in turn; the last one repeats. -/
structure Network where
  next : Answer
  later : List Answer
deriving DecidableEq, Repr

def Network.advance (n : Network) : Network :=
  match n.later with
  | [] => n
  | a :: rest => ⟨a, rest⟩

/-- Why the address of a redirect cannot be read: its bytes are written as characters of Latin-1, and are
UTF-8. -/
inductive LocationFault where
  | notLatin1
  | notUtf8
deriving DecidableEq, Repr

/-- A failure on the way that the transport has no name for. -/
inductive Breakdown where
  | location (f : LocationFault)
  /-- An address cannot be cut into its parts. -/
  | badAddress
  /-- A name or a password in an address has characters beyond Latin-1. -/
  | badUserInfo
  /-- A response announces several lengths. -/
  | badLength
  | system
deriving DecidableEq, Repr

/-- Why there is no response. -/
inductive SendFault where
  | endpoint (f : Endpoint.Fault)
  | badHeader (value : String)
  | transport (kind message : String)
  | body (f : BodyFault)
  | tooManyRedirects
  | breakdown (b : Breakdown)
deriving DecidableEq, Repr

/-- The requests that were sent, and the response to the last one. -/
structure Exchange where
  requests : List Request
  result : Except SendFault Response

/-- A header value begins with no blank and holds no line end, not even as its last character: a credential that ends in
one is a bad header, and nothing is sent. -/
def isHeaderValue (s : List Char) : Bool :=
  !s.contains '\n' && !s.contains '\r' && match s with
    | [] => true
    | c :: _ => !Text.isBlank c

def base64Digit (n : Nat) : Char :=
  "ABCDEFGHIJKLMNOPQRSTUVWXYZabcdefghijklmnopqrstuvwxyz0123456789+/".toList.getD n '='

def base64 : List UInt8 → List Char
  | a :: b :: c :: r =>
    let n := (a.toNat * 256 + b.toNat) * 256 + c.toNat
    base64Digit (n / 262144) :: base64Digit (n / 4096 % 64) :: base64Digit (n / 64 % 64) ::
      base64Digit (n % 64) :: base64 r
  | [a, b] =>
    let n := (a.toNat * 256 + b.toNat) * 256
    [base64Digit (n / 262144), base64Digit (n / 4096 % 64), base64Digit (n / 64 % 64), '=']
  | [a] =>
    let n := a.toNat * 65536
    [base64Digit (n / 262144), base64Digit (n / 4096 % 64), '=', '=']
  | [] => []

/-- The bytes of a text that has one byte for each character. -/
def latin1Bytes (s : List Char) : List UInt8 := s.map fun c ↦ UInt8.ofNat c.toNat

def isLatin1 (c : Char) : Bool := c.toNat ≤ 0xFF

/-- The header that a name and a password in an address stand for, if there are any. -/
def basicAuthorization (r : Reference) : Except Breakdown (Option String) :=
  match r.userInfo? with
  | none => .ok none
  | some info => match Text.cut ':' info with
    | (_, none) => .ok none
    | (user, some password) =>
      let user := Charset.utf8.decode (Percent.bytes user)
      let password := Charset.utf8.decode (Percent.bytes password)
      if user.isEmpty ∧ password.isEmpty then .ok none
      else if (user ++ password).all isLatin1 then
        .ok (some ("Basic " ++ String.ofList (base64 (latin1Bytes (user ++ ':' :: password)))))
      else .error .badUserInfo

/-- The address that a response redirects to, as it is written. -/
def Response.location? (r : Response) : Option String :=
  if r.status ∈ [301, 302, 303, 307, 308] then given? (r.header? "Location") else none

/-- Reads the address of a redirect. -/
def readLocation (written : String) : Except LocationFault String :=
  if !written.toList.all isLatin1 then .error .notLatin1
  else match Charset.utf8.decodeExactly? (latin1Bytes written.toList) with
    | some s => .ok (String.ofList s)
    | none => .error .notUtf8

/-- The port of an address: none, a number, or a text that is no port. -/
def portOf (r : Reference) : Except Unit (Option Nat) :=
  let port := r.hostPort.2
  if port = [] then .ok none
  else if port.all Char.isDigit && Nat.ofDigitChars 10 port 0 ≤ 65535 then
    .ok (some (Nat.ofDigitChars 10 port 0))
  else .error ()

def defaultPort? (scheme : List Char) : Option Nat :=
  if scheme = "http".toList then some 80 else if scheme = "https".toList then some 443 else none

/-- Credentials are kept on the way to the same host, if scheme and port stay the same too. Going from
HTTP to HTTPS on the usual ports keeps them as well. -/
def keepsCredentials (old new : Reference) : Except Unit Bool :=
  if old.hostPort.1 ≠ new.hostPort.1 then .ok false
  else match portOf old, portOf new with
    | .ok p, .ok q =>
      let isDefault (r : Reference) (n : Option Nat) : Bool := n = none || n = defaultPort? r.scheme
      let upgraded := old.scheme = "http".toList && new.scheme = "https".toList &&
        isDefault old p && isDefault new q
      let same := old.scheme = new.scheme && (p = q || isDefault old p && isDefault new q)
      .ok (upgraded || same)
    | _, _ => .error ()

/-- What is left of an authorization on the way from one address to another. -/
def kept? (authorization : Option String) (old new : Reference) : Except Unit (Option String) :=
  match authorization with
  | none => .ok none
  | some a => match keepsCredentials old new with
    | .ok keep => .ok (if keep then some a else none)
    | .error () => .error ()

/-- Where a redirect leads to. -/
structure Redirect where
  address : String
  authorization : Option String
  fragment : List Char

/-- The address that a redirect leads to, and its fragment as it was written. A fragment goes along unless the new
address has its own. -/
def target? (address location : String) (fragment : List Char) : Option (List Char × List Char) :=
  let written := match location.toList with
    | '/' :: '/' :: r => (Reference.parse address.toList).scheme ++ ':' :: '/' :: '/' :: r
    | s => s
  match Reference.read? written with
  | none => none
  | some r =>
    let r := if r.fragment.isEmpty then { r with fragment } else r
    let quoted := Percent.requote r.text
    (if r.authority.isEmpty then Reference.join? address.toList quoted else some quoted).map
      (·, r.fragment)

/-- Reads where a request that was redirected goes next. -/
def redirect (request : Request) (location : String) (fragment : List Char) : Option Redirect :=
  match target? request.url location fragment with
  | none => none
  | some (target, fragment) =>
    match Reference.read? request.url.toList, Reference.read? target with
    | some old, some new => match kept? request.authorization old new with
      | .error () => none
      | .ok kept => some ⟨String.ofList target, kept, fragment⟩
    | _, _ => none

def maxRedirects : Nat := 30

/-- The body of the last response, as it was before it was sent. -/
def received (r : Response) : Except SendFault Response :=
  match r.content with
  | .ok body => .ok { r with body }
  | .error f => .error (.body f)

/-- What an answer to a request means: there is a response, or a redirect, or none of them. -/
def Answer.meaning (request : Request) (fragment : List Char) :
    Answer → Except SendFault (Response ⊕ Redirect)
  | .failure kind message => .error (.transport kind message)
  | .broken => .error (.breakdown .system)
  | .response r =>
    if 1 < r.lengths.length then .error (.breakdown .badLength)
    else match r.location? with
      | none => (received r).map .inl
      | some written => match readLocation written with
        | .error f => .error (.breakdown (.location f))
        | .ok location => match redirect request location fragment with
          | none => .error (.breakdown .badAddress)
          | some next => .ok (.inr next)

/-- Sends a request and follows up to `more` redirects. -/
def follow (timeout : Seconds) : (more : Nat) → (address : String) → (authorization : Option String) →
    (fragment : List Char) → Network → Exchange
  | more, address, authorization, fragment, network =>
    if !Endpoint.hasTransport address then ⟨[], .error (.endpoint (.noTransport address))⟩
    else
      let request : Request := ⟨address, authorization, timeout⟩
      match network.next.meaning request fragment, more with
      | .error f, _ => ⟨[request], .error f⟩
      | .ok (.inl r), _ => ⟨[request], .ok r⟩
      | .ok (.inr _), 0 => ⟨[request], .error .tooManyRedirects⟩
      | .ok (.inr next), n + 1 =>
        let exchange := follow timeout n next.address next.authorization next.fragment network.advance
        ⟨request :: exchange.requests, exchange.result⟩

/-- Asks an endpoint, with a credential for the `Authorization` header. A name and a password in the
endpoint come before the credential. -/
def get (endpoint credential : String) (timeout : Seconds) (network : Network) : Exchange :=
  match Endpoint.prepare endpoint with
  | .error f => ⟨[], .error (.endpoint f)⟩
  | .ok address =>
    if !isHeaderValue credential.toList then ⟨[], .error (.badHeader credential)⟩
    else match Reference.read? address.toList with
      | none => ⟨[], .error (.breakdown .badAddress)⟩
      | some r => match basicAuthorization r with
        | .error b => ⟨[], .error (.breakdown b)⟩
        | .ok basic =>
          follow timeout maxRedirects address (some (basic.getD credential)) r.fragment network

end ClusterMatrix.Http

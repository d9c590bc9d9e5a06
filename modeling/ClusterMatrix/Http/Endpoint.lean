import ClusterMatrix.Http.Host
import ClusterMatrix.Http.Reference
import ClusterMatrix.Text.Blank
import ClusterMatrix.Text.Quoted

/-!
# Endpoints

What a user gives as endpoint is prepared before a request is sent to it: scheme and host in lower
case, path, query and fragment percent-encoded, points in the path resolved. A text with a colon that
does not begin with `http` is left alone, and no transport takes it.
-/

namespace ClusterMatrix.Http

namespace Endpoint

/-- Why no request can be made of an endpoint. -/
inductive Fault where
  | noScheme (url : String)
  | noHost (url : String)
  | badBeginning
  | badPort (url : String)
  | badPlace (place : List Char)
  | badHost (f : Host.Fault)
  | noTransport (url : String)
deriving DecidableEq, Repr

def quoted (s : List Char) : String := String.ofList (Text.quoted s)

def quotedUrl (url : String) : String := quoted url.toList

def hostMessage : Host.Fault → String
  | .badCharacter host c =>
    "Host " ++ quoted host ++ " contains invalid character " ++ quoted [c]
  | .badCode host code =>
    "Host " ++ quoted host ++ " contains invalid percent-encoded control character " ++ quoted code
  | .badLabel label => "Name '" ++ String.ofList label ++ "' is not a valid IDNA label"

def Fault.message : Fault → String
  | .noScheme url => "Invalid URL " ++ quotedUrl url ++
    ": No scheme supplied. Perhaps you meant https://" ++ url ++ "?"
  | .noHost url => "Invalid URL " ++ quotedUrl url ++ ": No host supplied"
  | .badBeginning => "URL has an invalid label."
  | .badPort url => "Failed to parse: " ++ url
  | .badPlace place => "Failed to parse: " ++ quoted place ++ " is not a valid host or port"
  | .badHost f => "Failed to parse: " ++ hostMessage f
  | .noTransport url => "No connection adapters were found for " ++ quotedUrl url

/-- The parts of an endpoint. An empty part and one that is absent differ here. -/
structure Parts where
  scheme : Option (List Char)
  userInfo : Option (List Char)
  host : Option (List Char)
  port : Option Nat
  path : List Char
  query : Option (List Char)
  fragment : Option (List Char)

/-- The text begins with a slash, or with a scheme without points. -/
def hasBeginning : List Char → Bool
  | '/' :: _ => true
  | c :: r => c.isAlpha && (r.dropWhile fun d ↦ d.isAlphanum || d = '+' || d = '-').head? = some ':'
  | [] => false

/-- The scheme in lower case and what follows its colon. -/
def cutScheme (s : List Char) : Option (List Char) × List Char :=
  match Reference.cutScheme s with
  | ([], _) => (none, s)
  | (scheme, r) => (some scheme, r)

def cutAuthority : List Char → Option (List Char) × List Char
  | '/' :: '/' :: r =>
    let ends (c : Char) : Bool := Reference.endsAuthority c || c = '\\'
    (some (r.takeWhile (!ends ·)), r.dropWhile (!ends ·))
  | s => (none, s)

/-- The text of a port has at most five digits behind its zeros. -/
def port? (s : List Char) : Option (Option Nat) :=
  if s.isEmpty then some none
  else if s.all Char.isDigit then
    let digits := s.dropWhile (· = '0')
    if digits.length ≤ 5 then some (some (Nat.ofDigitChars 10 digits 0)) else none
  else none

def maxPort : Nat := 65535

/-- The written form of a host and its port, as they stand in the address `url`. -/
def place (url : List Char) (port : Option Nat) (written : Except Host.Fault (List Char)) :
    Except Fault (List Char × Option Nat) :=
  if port.any (maxPort < ·) then .error (.badPort (String.ofList url))
  else match written with
    | .error f => .error (.badHost f)
    | .ok h => .ok (h, port)

/-- Cuts a place into host and port. -/
def cutPort (s : List Char) : List Char × List Char :=
  match s, Text.cut ']' s with
  | '[' :: _, (inner, some r) => (inner ++ [']'], r)
  | _, _ => (s.takeWhile (· ≠ ':'), s.dropWhile (· ≠ ':'))

/-- The text of a port behind its colon, if there is one. -/
def afterColon? : List Char → Option (Option Nat)
  | [] => some none
  | ':' :: p => port? p
  | _ => none

/-- The host and the port of an authority. -/
def hostPort (url s : List Char) : Except Fault (List Char × Option Nat) :=
  let (host, port) := cutPort s
  match Host.bracketed? host, afterColon? port with
  | some h, some n => place url n (.ok h)
  | _, some n =>
    if Host.isName host then place url n (Host.name host) else .error (badPlace s)
  | _, none => .error (badPlace s)
where
  /-- What neither a host nor a host with a port is. -/
  badPlace (s : List Char) : Fault :=
    match s.find? Host.isControl with
    | some c => .badHost (.badCharacter s c)
    | none => .badPlace s

def isSubDelimiter (c : Char) : Bool := "!$&'()*+,;=".toList.contains c

def isUserInfoChar (c : Char) : Bool := Percent.isUnreserved c || isSubDelimiter c || c = ':'

def isPathChar (c : Char) : Bool := isUserInfoChar c || c = '@' || c = '/'

def isQueryChar (c : Char) : Bool := isPathChar c || c = '?'

/-- Leaves out the single points of a path, and with each double point the segment before it. -/
def removePoints (path : List Char) : List Char :=
  let segments := Text.splitOn '/' path
  let kept := (segments.foldl (fun done segment ↦
    if segment = ['.'] then done
    else if segment = ['.', '.'] then done.drop 1
    else segment :: done) []).reverse
  let rooted := match path, kept with
    | '/' :: _, [] => [[]]
    | '/' :: _, (_ :: _) :: _ => [] :: kept
    | _, _ => kept
  let ended := match segments with
    | _ :: _ :: _ =>
      if segments.getLast? = some ['.'] ∨ segments.getLast? = some ['.', '.'] then rooted ++ [[]]
      else rooted
    | _ => rooted
  Text.joinWith '/' ended

/-- Cuts an endpoint into its parts. -/
def parts (url : List Char) : Except Fault Parts :=
  let s := if hasBeginning url then url else '/' :: '/' :: url
  let (scheme, s) := cutScheme s
  let (authority, s) := cutAuthority s
  let (s, fragment) := Text.cut '#' s
  let (path, query) := Text.cut '?' s
  let rest (userInfo host : Option (List Char)) (port : Option Nat) : Parts :=
    { scheme, userInfo, host, port
      path := if path.isEmpty then [] else Percent.normalize isPathChar (removePoints path)
      query := query.map (Percent.normalize isQueryChar)
      fragment := fragment.map (Percent.normalize isQueryChar) }
  match authority with
  | none => .ok (rest none none none)
  | some [] => .ok (rest none none none)
  | some a =>
    let (userInfo, place) := Text.cutLast '@' a
    let userInfo := match userInfo with
      | some (c :: u) => some (Percent.normalize isUserInfoChar (c :: u))
      | _ => none
    (hostPort url place).map fun p ↦ rest userInfo (some p.1) p.2

/-- The address that the parts make up. A port of zero is left out. -/
def Parts.address (p : Parts) (scheme host : List Char) : List Char :=
  let authority := (match p.userInfo with
      | some u => u ++ ['@']
      | none => []) ++ host ++
    (match p.port with
      | some 0 => []
      | some n => ':' :: Nat.toDigits 10 n
      | none => [])
  let path := match p.path with
    | [] => ['/']
    | '/' :: _ => p.path
    | r => '/' :: r
  Percent.requote (Reference.text
    ⟨scheme, authority, path, [], p.query.getD [], p.fragment.getD []⟩)

/-- The address that requests to an endpoint go to. -/
def prepare (endpoint : String) : Except Fault String :=
  let url := Text.trimStart endpoint.toList
  if ':' ∈ url ∧ (url.take 4).map Char.toLower ≠ "http".toList then .ok (String.ofList url)
  else if url = [] then .error (.noScheme "")
  else match parts url with
    | .error f => .error f
    | .ok p => match p.scheme, p.host with
      | none, _ => .error (.noScheme (String.ofList url))
      | some _, none => .error (.noHost (String.ofList url))
      | some _, some [] => .error (.noHost (String.ofList url))
      | some scheme, some host =>
        if host.head? = some '*' ∨ host.head? = some '.' then .error .badBeginning
        else .ok (String.ofList (p.address scheme host))

/-- Requests are sent by these schemes only. -/
def hasTransport (address : String) : Bool :=
  let s := address.toList.map Char.toLower
  "https://".toList.isPrefixOf s || "http://".toList.isPrefixOf s

end Endpoint

end ClusterMatrix.Http

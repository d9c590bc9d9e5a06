import ClusterMatrix.Http.Host
import ClusterMatrix.Http.Percent
import ClusterMatrix.Text.Split

/-!
# References

A reference is cut into scheme, authority, path, parameters, query and fragment, and a relative one is
resolved against the address that it was found at. A part that is absent counts as empty.
-/

namespace ClusterMatrix.Http

structure Reference where
  scheme : List Char
  authority : List Char
  path : List Char
  /-- What stands behind the first semicolon of the last segment of the path. -/
  parameters : List Char
  query : List Char
  fragment : List Char
deriving DecidableEq, Repr

namespace Reference

def isSchemeChar (c : Char) : Bool := c.isAlphanum || c = '+' || c = '-' || c = '.'

/-- The scheme in lower case and what follows its colon. -/
def cutScheme (s : List Char) : List Char × List Char :=
  match Text.cut ':' s with
  | (c :: w, some r) =>
    if c.isAlpha && w.all isSchemeChar then ((c :: w).map Char.toLower, r) else ([], s)
  | _ => ([], s)

def endsAuthority (c : Char) : Bool := c = '/' || c = '?' || c = '#'

/-- The authority behind two slashes and what follows it. -/
def cutAuthority : List Char → List Char × List Char
  | '/' :: '/' :: r => (r.takeWhile (!endsAuthority ·), r.dropWhile (!endsAuthority ·))
  | s => ([], s)

/-- The schemes whose paths have parameters. -/
def parameterSchemes : List String :=
  ["", "ftp", "hdl", "prospero", "http", "imap", "https", "shttp", "rtsp", "rtspu", "sip", "sips", "mms",
    "sftp", "tel"]

/-- The schemes that an authority follows, even if it is empty. -/
def authoritySchemes : List String :=
  ["ftp", "http", "gopher", "nntp", "telnet", "imap", "wais", "file", "mms", "https", "shttp", "snews",
    "prospero", "rtsp", "rtspu", "rsync", "svn", "svn+ssh", "sftp", "nfs", "git", "git+ssh", "ws", "wss"]

/-- A path and its parameters. -/
def cutParameters (path : List Char) : List Char × List Char :=
  match Text.cutLast '/' path with
  | (none, last) => ((Text.cut ';' last).1, (Text.cut ';' last).2.getD [])
  | (some front, last) => (front ++ '/' :: (Text.cut ';' last).1, (Text.cut ';' last).2.getD [])

/-- Blanks and control characters in front do not count, nor do tabs and line ends anywhere. -/
def parse (text : List Char) : Reference :=
  let s := (text.dropWhile (· ≤ ' ')).filter fun c ↦ c ≠ '\t' && c ≠ '\n' && c ≠ '\r'
  let (scheme, s) := cutScheme s
  let (authority, s) := cutAuthority s
  let (s, fragment) := Text.cut '#' s
  let (path, query) := Text.cut '?' s
  let (path, parameters) :=
    if String.ofList scheme ∈ parameterSchemes then cutParameters path else (path, [])
  ⟨scheme, authority, path, parameters, query.getD [], fragment.getD []⟩

/-- Text behind a mark, unless there is none. -/
def part (mark : Char) (s : List Char) : List Char := if s.isEmpty then [] else mark :: s

/-- The text of a reference. Two slashes stand in front of an authority, and in front of the path of a scheme that
goes with one, unless the path begins with two slashes itself. -/
def text (r : Reference) : List Char :=
  let path := r.path ++ part ';' r.parameters
  let hasAuthority := r.authority ≠ [] ||
    (String.ofList r.scheme ∈ authoritySchemes && path.take 2 ≠ ['/', '/'])
  let body :=
    if hasAuthority then
      '/' :: '/' :: r.authority ++
        (match path with
          | [] => []
          | '/' :: _ => path
          | p => '/' :: p)
    else path
  (if r.scheme.isEmpty then [] else r.scheme ++ [':']) ++ body ++ part '?' r.query ++
    part '#' r.fragment

/-- Leaves out the single points of a path, and with each double point the segment before it. -/
def resolveSegments (segments : List (List Char)) : List (List Char) :=
  let kept := segments.foldl (fun done segment ↦
    if segment = ['.', '.'] then done.drop 1
    else if segment = ['.'] then done
    else segment :: done) []
  let ended := match segments.getLast? with
    | some ['.'] => [] :: kept
    | some ['.', '.'] => [] :: kept
    | _ => kept
  ended.reverse

/-- The path of a relative reference, seen from a base path. -/
def mergePaths (base path : List Char) : List Char :=
  let segments := match path with
    | '/' :: _ => Text.splitOn '/' path
    | _ =>
      let parts := Text.splitOn '/' base
      let parts := if parts.getLast? = some [] then parts else parts.dropLast
      match parts ++ Text.splitOn '/' path with
      | [] => []
      | [s] => [s]
      | first :: rest =>
        first :: rest.dropLast.filter (!·.isEmpty) ++ (rest.getLast?.map ([·])).getD []
  match Text.joinWith '/' (resolveSegments segments) with
  | [] => ['/']
  | p => p

/-- Resolves a reference against a base of the same scheme. -/
def resolve (base r : Reference) : Reference :=
  if r.authority ≠ [] then { r with scheme := base.scheme }
  else if r.path = [] ∧ r.parameters = [] then
    { base with
      query := if r.query = [] then base.query else r.query
      fragment := r.fragment }
  else
    { base with
      path := mergePaths base.path r.path
      parameters := r.parameters
      query := r.query
      fragment := r.fragment }

/-- The characters beyond ASCII that contain a mark of addresses once they are taken apart. -/
def disguisedMarks : List Nat :=
  [0x2047, 0x2048, 0x2049, 0x2100, 0x2101, 0x2105, 0x2106, 0x2A74, 0xFE13, 0xFE16, 0xFE55, 0xFE56,
    0xFE5F, 0xFE6B, 0xFF03, 0xFF0F, 0xFF1A, 0xFF1F, 0xFF20]

/-- What may stand in brackets: an IPv6 address, perhaps with a zone, or an address of a later version. -/
def isBracketed (s : List Char) : Bool :=
  match s with
  | 'v' :: r => match Text.cut '.' r with
    | (version, some (_ :: _)) => !version.isEmpty && version.all Text.isHex
    | _ => false
  | _ => match Text.cut '%' s with
    | (address, none) => Host.isIPv6 Host.isStrictIPv4 address
    | (address, some zone) =>
      Host.isIPv6 Host.isStrictIPv4 address && !zone.isEmpty && !zone.contains '%'

/-- What stands behind the last `@` of the authority. -/
def place (r : Reference) : List Char := (Text.cutLast '@' r.authority).2

/-- Brackets in the authority come in a pair. They stand around the host: nothing is in front of them, and only a
port behind. -/
def hasSoundBrackets (r : Reference) : Bool :=
  if !r.authority.contains '[' && !r.authority.contains ']' then true
  else if !r.authority.contains '[' || !r.authority.contains ']' then false
  else match Text.cut '[' r.place with
    | (before, some inner) =>
      let (host, rest) := Text.cut ']' inner
      before.isEmpty && (rest.getD []).head?.all (· = ':') && isBracketed host
    | (_, none) => isBracketed (Text.cut ':' r.place).1

/-- The authority holds no disguised marks, and its brackets are sound. -/
def isReadable (r : Reference) : Bool :=
  r.authority.all (fun c ↦ !disguisedMarks.contains c.toNat) && r.hasSoundBrackets

/-- Cuts an address into its parts, if it is readable. -/
def read? (text : List Char) : Option Reference :=
  let r := parse text
  if r.isReadable then some r else none

/-- The address that a text stands for where it is found at another address. A text of another scheme stays as it
is. -/
def join? (base text : List Char) : Option (List Char) :=
  match read? base, read? text with
  | some b, some r =>
    if text = [] then some base
    else if r.scheme ≠ [] ∧ r.scheme ≠ b.scheme then some text
    else some (b.resolve r).text
  | _, _ => none

/-- What stands before the last `@` of the authority. -/
def userInfo? (r : Reference) : Option (List Char) := (Text.cutLast '@' r.authority).1

/-- The host and the text of the port. The host is in lower case, but for the zone behind a percent sign. -/
def hostPort (r : Reference) : List Char × List Char :=
  let (host, port) := match Text.cut '[' r.place with
    | (_, some inner) =>
      let (host, rest) := Text.cut ']' inner
      (host, (Text.cut ':' (rest.getD [])).2.getD [])
    | (_, none) =>
      let (host, port) := Text.cut ':' r.place
      (host, port.getD [])
  ((host.takeWhile (· ≠ '%')).map Char.toLower ++ host.dropWhile (· ≠ '%'), port)

end Reference

end ClusterMatrix.Http

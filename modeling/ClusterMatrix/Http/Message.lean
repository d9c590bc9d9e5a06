import ClusterMatrix.Charset.Guess
import ClusterMatrix.Charset.Label
import ClusterMatrix.Json.Reader
import ClusterMatrix.Text.Blank
import ClusterMatrix.Text.Split

/-!
# Requests and responses

The body of a response is read as JSON in the character set that its type declares. Without a declared
one, the set is told from the bytes themselves.
-/

namespace ClusterMatrix.Http

/-- A time limit in seconds. -/
inductive Seconds where
  | whole (n : Int)
  | fractional (x : Float)
deriving DecidableEq

/-- A request that was sent, with its `Authorization` header. -/
structure Request where
  url : String
  authorization : Option String
  timeout : Seconds
deriving DecidableEq

structure Response where
  status : Nat
  headers : List (String × String)
  body : List UInt8
deriving DecidableEq, Repr

/-- Why a body is not read as JSON: it is no text, or the text is no JSON. -/
inductive ContentFault where
  | text (f : Charset.TextFault)
  | json (e : Json.ReadError)
deriving DecidableEq

namespace Response

def lowerCase (s : String) : List Char := s.toList.map Char.toLower

/-- The value of a header, whose name may be written in any case. Values that come apart are joined by commas. -/
def header? (r : Response) (name : String) : Option String :=
  match (r.headers.filter fun h ↦ lowerCase h.1 = lowerCase name).map Prod.snd with
  | [] => none
  | values => some (", ".intercalate values)

/-- Drops the given characters at both ends. -/
def strip (drop : Char → Bool) (s : List Char) : List Char :=
  ((s.dropWhile drop).reverse.dropWhile drop).reverse

/-- A parameter of a content type: its name in lower case, and its value if it has one. -/
structure Parameter where
  name : List Char
  value? : Option (List Char)
deriving DecidableEq, Repr

def Parameter.parse (s : List Char) : Parameter :=
  let mark (c : Char) : Bool := c = '"' || c = '\x27' || c = ' '
  match Text.cut '=' (Text.trim s) with
  | (name, none) => ⟨name.map Char.toLower, none⟩
  | (name, some value) => ⟨(strip mark name).map Char.toLower, some (strip mark value)⟩

def occursIn (part s : List Char) : Bool :=
  match s with
  | [] => part.isEmpty
  | c :: r => part.isPrefixOf (c :: r) || occursIn part r

/-- The last `charset` among the parameters of a content type. -/
def charset? (contentType : String) : Option Parameter :=
  (((Text.splitOn ';' contentType.toList).tail.map Parameter.parse).filter
    fun p ↦ p.name = "charset".toList).getLast?

/-- The label of the character set that bodies of a kind have when none is declared. -/
def defaultLabel? (kind : List Char) : Option (List Char) :=
  if occursIn "text".toList kind then some "ISO-8859-1".toList
  else if occursIn "application/json".toList kind then some "utf-8".toList
  else none

/-- The label of the character set that a content type declares: the value of its `charset`, or else the default
of its kind. -/
def declaredLabel? (contentType : String) : Option (List Char) :=
  ((charset? contentType).bind Parameter.value?).or (defaultLabel? (Text.cut ';' contentType.toList).1)

/-- The body read as JSON. -/
def json (r : Response) : Except ContentFault Json :=
  let label := ((r.header? "Content-Type").bind declaredLabel?).getD []
  let guessed :=
    if label = [] ∧ 3 < r.body.length then
      (Charset.guess? r.body).bind fun cs ↦ cs.decodeExactly? r.body
    else none
  match guessed, Charset.text label r.body with
  | some text, _ => (Json.parse text).mapError .json
  | none, .ok text => (Json.parse text).mapError .json
  | none, .error f => .error (.text f)

end Response

end ClusterMatrix.Http

import ClusterMatrix.Http.Label
import ClusterMatrix.Http.Percent
import ClusterMatrix.Text.Split

/-!
# Hosts

A host is an IPv4 address, an IPv6 address in brackets, or a name of labels with points between them.
-/

namespace ClusterMatrix.Http.Host

def isIPv4 (s : List Char) : Bool :=
  let parts := Text.splitOn '.' s
  parts.length = 4 && parts.all fun p ↦ 1 ≤ p.length && p.length ≤ 3 && p.all Char.isDigit

/-- An IPv4 address whose numbers fit into bytes and have no zero in front. -/
def isStrictIPv4 (s : List Char) : Bool :=
  isIPv4 s && (Text.splitOn '.' s).all fun p ↦
    Nat.ofDigitChars 10 p 0 ≤ 255 && (p.length = 1 || p.head? != some '0')

/-- The number of 16-bit groups that some pieces between colons stand for. An IPv4 address at the end
stands for two. -/
def groups? (isIPv4 : List Char → Bool) : List (List Char) → Option Nat
  | [] => some 0
  | [p] =>
    if isIPv4 p then some 2
    else if 1 ≤ p.length ∧ p.length ≤ 4 ∧ p.all Text.isHex then some 1
    else none
  | p :: ps =>
    if 1 ≤ p.length ∧ p.length ≤ 4 ∧ p.all Text.isHex then (groups? isIPv4 ps).map (· + 1)
    else none

/-- The texts before and behind the first pair of colons. -/
def cutPair : List Char → List Char × Option (List Char)
  | ':' :: ':' :: r => ([], some r)
  | c :: r => (c :: (cutPair r).1, (cutPair r).2)
  | [] => ([], none)

def pieces (s : List Char) : List (List Char) := if s.isEmpty then [] else Text.splitOn ':' s

/-- An address of eight groups, or of fewer ones with a pair of colons for those left out. -/
def isIPv6 (isIPv4 : List Char → Bool) (s : List Char) : Bool :=
  match cutPair s with
  | (all, none) => groups? isIPv4 (pieces all) = some 8
  | (front, some back) =>
    let plain := (pieces front).all fun p ↦ !isIPv4 p
    match groups? isIPv4 (pieces front), groups? isIPv4 (pieces back) with
    | some m, some n => plain && m + n ≤ 7
    | _, _ => false

/-- The address and the zone of what stands between brackets. -/
def cutZone (s : List Char) : List Char × Option (List Char) :=
  match Text.cut '%' s with
  | (address, some ('2' :: '5' :: zone)) =>
    (address, some (if zone.isEmpty then ['2', '5'] else zone))
  | (address, zone) => (address, zone)

def isZone : List Char → Bool
  | [] => true
  | '%' :: a :: b :: r => Text.isHex a && Text.isHex b && isZone r
  | c :: r => Percent.isUnreserved c && isZone r

/-- The written form of an IPv6 address in brackets: in lower case, but for its zone. -/
def bracketed? (s : List Char) : Option (List Char) :=
  match s with
  | '[' :: r =>
    if r.getLast? = some ']' then
      match cutZone r.dropLast with
      | (address, none) =>
        if isIPv6 isIPv4 address then some ('[' :: address.map Char.toLower ++ [']']) else none
      | (address, some zone) =>
        if isIPv6 isIPv4 address && isZone zone && !zone.isEmpty then
          some ('[' :: address.map Char.toLower ++ '%' ::
            Percent.normalize Percent.isUnreserved zone ++ [']'])
        else none
    else none
  | _ => none

/-- A name holds none of the marks that end a host, and percent signs only in codes. -/
def isName (s : List Char) : Bool :=
  s.all (fun c ↦ !"[]:/?#".toList.contains c) && Percent.isEncoded s

/-- Why a name is no host. -/
inductive Fault where
  | badCharacter (host : List Char) (c : Char)
  | badCode (host code : List Char)
  | badLabel (label : List Char)
deriving DecidableEq, Repr

/-- A blank or a control character of ASCII. -/
def isControl (c : Char) : Bool := c ≤ ' ' || c = '\x7f'

/-- The first code of a control character. -/
def controlCode? : List Char → Option (List Char)
  | '%' :: a :: b :: r => match Text.hexValue? a, Text.hexValue? b with
    | some x, some y =>
      if x < 2 ∨ (x = 7 ∧ y = 15) then some ['%', a, b] else controlCode? r
    | _, _ => controlCode? (a :: b :: r)
  | _ :: r => controlCode? r
  | [] => none

/-- Reads the codes of unreserved characters as these in lower case, and writes the digits of the others in
capitals. -/
def readCodes : List Char → List Char
  | '%' :: a :: b :: r => match Text.hexValue? a, Text.hexValue? b with
    | some x, some y =>
      let c := Char.ofNat (x * 16 + y)
      if Percent.isUnreserved c then c.toLower :: readCodes r
      else '%' :: a.toUpper :: b.toUpper :: readCodes r
    | _, _ => '%' :: readCodes (a :: b :: r)
  | c :: r => c :: readCodes r
  | [] => []

/-- The labels of a name in their written forms. -/
def labels : List (List Char) → Except Fault (List (List Char))
  | [] => .ok []
  | l :: ls => match Label.written? l with
    | none => .error (.badLabel l)
    | some w => match labels ls with
      | .error f => .error f
      | .ok ws => .ok (w :: ws)

/-- The written form of a name. -/
def name (s : List Char) : Except Fault (List Char) :=
  match s.find? isControl, controlCode? s with
  | some c, _ => .error (.badCharacter s c)
  | none, some code => .error (.badCode s code)
  | none, none =>
    if isIPv4 s then .ok s
    else (labels (Text.splitOn '.' s)).map fun ws ↦ readCodes (Text.joinWith '.' ws)

end ClusterMatrix.Http.Host

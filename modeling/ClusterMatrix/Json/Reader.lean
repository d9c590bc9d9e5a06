import ClusterMatrix.Decimal.Layout
import ClusterMatrix.Json.Basic
import ClusterMatrix.Json.Fault
import ClusterMatrix.Text.Hex

/-!
# Reading JSON

`parse` reads the text of one value. Besides the standard's texts it takes `NaN`, `Infinity` and
`-Infinity`, and it refuses an integer of more than 4300 digits. Arrays and objects may be nested to any depth.

How deep an interpreter can nest them depends on the stack that is left to it, so this is no part of `parse`.
`parseWithin` reads with a limit to the nesting, and gives up a text that goes deeper.
-/

namespace ClusterMatrix.Json

/-- Why a text was refused: a fault with what was left to read there, an integer too long to read, or a bracket for
which there is no room. -/
inductive Refusal where
  | fault (cause : Cause) (rest : List Char)
  | longInteger
  | tooDeep

/-- What was read, and what is left. -/
abbrev Reading (α : Type) := Except Refusal (α × List Char)

def isSpace (c : Char) : Bool := c = ' ' || c = '\t' || c = '\n' || c = '\r'

def skipSpace (s : List Char) : List Char := s.dropWhile isSpace

/-- What follows a word, if the text begins with it. -/
def after? : (word : List Char) → List Char → Option (List Char)
  | [], s => some s
  | _ :: _, [] => none
  | c :: w, d :: s => if c = d then after? w s else none

@[simp] theorem after?_append (w s : List Char) : after? w (w ++ s) = some s := by
  induction w with
  | nil => rfl
  | cons c w ih => simp [after?, ih]

/-! ## Strings -/

/-- A piece of a string: a character, or one 16-bit unit written in hexadecimal. -/
inductive Piece where
  | char (c : Char)
  | unit (n : Nat)

/-- The characters that a backslash and a letter stand for. -/
def escapes : List (Char × Char) :=
  [('"', '"'), ('\\', '\\'), ('/', '/'), ('b', '\x08'), ('f', '\x0c'), ('n', '\n'), ('r', '\r'),
    ('t', '\t')]

def unit? (a b c d : Char) : Option Nat := do
  let a ← Text.hexValue? a
  let b ← Text.hexValue? b
  let c ← Text.hexValue? c
  let d ← Text.hexValue? d
  return ((a * 16 + b) * 16 + c) * 16 + d

/-- The pieces of a string up to its closing quote. `start` is the text from the opening quote on. -/
def pieces (start : List Char) : List Char → Reading (List Piece)
  | [] => .error (.fault .openString start)
  | '"' :: r => .ok ([], r)
  | ['\\'] => .error (.fault .openString start)
  | '\\' :: 'u' :: t => match t with
    | a :: b :: c :: d :: e :: r => match unit? a b c d with
      | some n => match pieces start (e :: r) with
        | .ok (ps, r) => .ok (.unit n :: ps, r)
        | .error x => .error x
      | none => .error (.fault .unicodeEscape ('u' :: t))
    | _ => .error (.fault .unicodeEscape ('u' :: t))
  | '\\' :: e :: r => match escapes.lookup e with
    | some c => match pieces start r with
      | .ok (ps, r) => .ok (.char c :: ps, r)
      | .error x => .error x
    | none => .error (.fault .escape ('\\' :: e :: r))
  | c :: r =>
    if c.toNat < 0x20 then .error (.fault .controlCharacter (c :: r))
    else match pieces start r with
      | .ok (ps, r) => .ok (.char c :: ps, r)
      | .error x => .error x

/-- The code points of a string: a high unit and the low unit after it are one character. -/
def joinUnits : List Piece → List Nat
  | [] => []
  | .char c :: ps => c.toNat :: joinUnits ps
  | .unit h :: .unit l :: ps =>
    if Text.isHighUnit h && Text.isLowUnit l then (Text.ofPair h l).toNat :: joinUnits ps
    else h :: joinUnits (.unit l :: ps)
  | .unit n :: ps => n :: joinUnits ps

/-- The text behind the opening quote with which `start` begins. -/
def string (start rest : List Char) : Reading Text :=
  match pieces start rest with
  | .ok (ps, r) => .ok (.ofCodes (joinUnits ps), r)
  | .error x => .error x

/-! ## Numbers -/

def maxIntegerDigits : Nat := 4300

/-- The digits before the point: a single zero, or digits that begin with none. -/
def wholePart? : List Char → Option (List Char × List Char)
  | [] => none
  | c :: r =>
    if c = '0' then some (['0'], r)
    else if c.isDigit then some ((c :: r).takeWhile Char.isDigit, (c :: r).dropWhile Char.isDigit)
    else none

/-- The digits behind the point. Without one the point is left alone. -/
def fraction : List Char → List Char × List Char
  | '.' :: r =>
    if (r.takeWhile Char.isDigit).isEmpty then ([], '.' :: r)
    else (r.takeWhile Char.isDigit, r.dropWhile Char.isDigit)
  | s => ([], s)

def signOf : List Char → Bool × List Char
  | '-' :: r => (true, r)
  | '+' :: r => (false, r)
  | s => (false, s)

/-- The exponent. Without a digit its mark is left alone. -/
def exponent : List Char → Option Int × List Char
  | [] => (none, [])
  | c :: r =>
    if c = 'e' ∨ c = 'E' then
      let (negative, t) := signOf r
      if (t.takeWhile Char.isDigit).isEmpty then (none, c :: r)
      else
        let n : Int := Nat.ofDigitChars 10 (t.takeWhile Char.isDigit) 0
        (some (if negative then -n else n), t.dropWhile Char.isDigit)
    else (none, c :: r)

def number (s : List Char) : Reading Json :=
  let (negative, t) := match s with
    | '-' :: t => (true, t)
    | t => (false, t)
  match wholePart? t with
  | none => .error (.fault .value s)
  | some (whole, r) =>
    let (places, r) := fraction r
    let (exp, r) := exponent r
    if places.isEmpty ∧ exp.isNone then
      if maxIntegerDigits < whole.length then .error .longInteger
      else
        let n : Int := Nat.ofDigitChars 10 whole 0
        .ok (.int (if negative then -n else n), r)
    else
      let m := Nat.ofDigitChars 10 (whole ++ places) 0
      .ok (.float (Decimal.nearest negative m (exp.getD 0 - places.length)), r)

/-! ## Values -/

/-- The values that are written as a word. -/
def words : List (List Char × Json) :=
  [("null".toList, .null), ("true".toList, .bool true), ("false".toList, .bool false),
    ("NaN".toList, .float (0 / 0)), ("Infinity".toList, .float (1 / 0)),
    ("-Infinity".toList, .float (-1 / 0))]

def word? (s : List Char) : Option (Json × List Char) :=
  words.findSome? fun w ↦ (after? w.1 s).map (w.2, ·)

mutual

/-- Reads one value. The first number bounds the values and separators that are read, and the second one is the room
for arrays and objects that are open at once. -/
def value : (bound room : Nat) → List Char → Reading Json
  | 0, _, s => .error (.fault .value s)
  | n + 1, room, s => match s with
    | '"' :: r => match string s r with
      | .error x => .error x
      | .ok (t, r) => .ok (ofText t, r)
    | '[' :: r => match room with
      | 0 => .error .tooDeep
      | room + 1 => match skipSpace r with
        | ']' :: r => .ok (.arr [], r)
        | r => match value n room r with
          | .error x => .error x
          | .ok (v, r) => match moreItems n room r with
            | .error x => .error x
            | .ok (vs, r) => .ok (.arr (v :: vs), r)
    | '{' :: r => match room with
      | 0 => .error .tooDeep
      | room + 1 => match skipSpace r with
        | '}' :: r => .ok (.obj [], r)
        | r => match member n room r with
          | .error x => .error x
          | .ok (m, r) => match moreMembers n room r with
            | .error x => .error x
            | .ok (ms, r) => .ok (.obj (membersOf (m :: ms)), r)
    | s => match word? s with
      | some (v, r) => .ok (v, r)
      | none => number s

/-- The items of an array behind one of them. -/
def moreItems : (bound room : Nat) → List Char → Reading (List Json)
  | 0, _, s => .error (.fault .comma s)
  | n + 1, room, s => match skipSpace s with
    | ']' :: r => .ok ([], r)
    | ',' :: r => match value n room (skipSpace r) with
      | .error x => .error x
      | .ok (v, r) => match moreItems n room r with
        | .error x => .error x
        | .ok (vs, r) => .ok (v :: vs, r)
    | r => .error (.fault .comma r)

def member : (bound room : Nat) → List Char → Reading (Text × Json)
  | 0, _, s => .error (.fault .key s)
  | n + 1, room, s => match s with
    | '"' :: r => match string s r with
      | .error x => .error x
      | .ok (k, r) => match skipSpace r with
        | ':' :: r => match value n room (skipSpace r) with
          | .error x => .error x
          | .ok (v, r) => .ok ((k, v), r)
        | r => .error (.fault .colon r)
    | s => .error (.fault .key s)

/-- The members of an object behind one of them. -/
def moreMembers : (bound room : Nat) → List Char → Reading (List (Text × Json))
  | 0, _, s => .error (.fault .comma s)
  | n + 1, room, s => match skipSpace s with
    | '}' :: r => .ok ([], r)
    | ',' :: r => match member n room (skipSpace r) with
      | .error x => .error x
      | .ok (m, r) => match moreMembers n room r with
        | .error x => .error x
        | .ok (ms, r) => .ok (m :: ms, r)
    | r => .error (.fault .comma r)

end

/-- Why a text is not read as a value. -/
inductive ReadError where
  | fault (f : Fault)
  | longInteger
deriving DecidableEq, Repr

/-- What is told of a refusal; nothing is told of a bracket without room. -/
def Refusal.toError? (text : List Char) : Refusal → Option ReadError
  | .fault cause rest => some (.fault (.before cause text rest))
  | .longInteger => some .longInteger
  | .tooDeep => none

/-- The bound is never reached: each reading takes a character, and a member takes two bounds for
its key, colon and value. -/
def document (room : Nat) (s : List Char) : Except Refusal Json :=
  match s with
  | '\uFEFF' :: _ => .error (.fault .byteOrderMark s)
  | s => match value (s.length + 1) room (skipSpace s) with
    | .error x => .error x
    | .ok (v, r) => match skipSpace r with
      | [] => .ok v
      | r => .error (.fault .extraData r)

/-- Reads the text of one value in which no more than `room` arrays and objects are open at once. Nothing comes of a
text that goes deeper. -/
def parseWithin (room : Nat) (text : List Char) : Option (Except ReadError Json) :=
  match document room text with
  | .ok v => some (.ok v)
  | .error x => (x.toError? text).map .error

/-- Reads the text of one value. Each bracket takes a character, so there is room for all of them and something always
comes of the text. -/
def parse (text : List Char) : Except ReadError Json :=
  (parseWithin text.length text).getD (.error (.fault (.before .value text text)))

end ClusterMatrix.Json

import ClusterMatrix.Markup.Literal.Number
import ClusterMatrix.Markup.Literal.Quoted
import ClusterMatrix.Text.Split

/-!
# Literal values

A literal is a number, a complex number, a quoted text or several in a row, a constant, or a tuple, a dictionary
or a set of literals. The keys of a dictionary and the items of a set hold neither dictionaries nor sets. Inside
brackets a literal may go over several lines and hold comments.
-/

namespace ClusterMatrix.Markup.Literal

/-- What a part of a literal is, as far as it tells what may be made of it. -/
inductive Node where
  | number (n : Number)
  /-- A number with a sign. -/
  | signed (n : Number)
  /-- Any other value, which may be one to look up by. -/
  | value (isKey : Bool)
  /-- The word `set`, which brackets without anything between them make the empty set. -/
  | setWord
deriving DecidableEq, Repr

def Node.isKey : Node → Bool
  | .number _ => true
  | .signed _ => true
  | .value isKey => isKey
  | .setWord => false

def Node.sign? : Node → Option Node
  | .number n => some (.signed n)
  | _ => none

/-- An imaginary number can be added to the node. -/
def Node.isReal : Node → Bool
  | .number n => n.isReal
  | .signed n => n.isReal
  | _ => false

/-- A blank between the parts of a literal. -/
def isGap (c : Char) : Bool := c = ' ' || c = '\t' || c = '\x0c'

/-- Drops the gaps in front of the next part. Inside brackets line ends and comments are gaps too, and a backslash
makes one of the line end behind it. -/
def skipFrom (inside inComment : Bool) : List Char → List Char
  | [] => []
  | c :: s =>
    if inComment then skipFrom inside (c ≠ '\n') s
    else if isGap c then skipFrom inside false s
    else if inside && c = '\n' then skipFrom inside false s
    else if inside && c = '#' then skipFrom inside true s
    else if c = '\\' then match s with
      | '\n' :: s => skipFrom inside false s
      | _ => c :: s
    else c :: s

def skip (depth : Nat) (s : List Char) : List Char := skipFrom (0 < depth) false s

/-- The most brackets that are open at a time. -/
def maxDepth : Nat := 200

def constants : List String := ["None", "True", "False"]

/-- Further quoted texts in a row, which are all texts or all bytes. -/
def afterQuoted? (depth : Nat) : (steps : Nat) → (bytes : Bool) → List Char → Option (List Char)
  | 0, _, _ => none
  | n + 1, bytes, s => match quoted? s with
    | none => some s
    | some (other, r) => if other = bytes then afterQuoted? depth n bytes (skip depth r) else none

/-- The empty set, or the word alone. -/
def afterSetWord? (depth : Nat) : List Char → Option (Node × List Char)
  | '(' :: s => match skip (depth + 1) s with
    | ')' :: r => some (.value false, skip depth r)
    | _ => none
  | s => some (.setWord, s)

/-- A part without brackets: a number, quoted texts or a word. -/
def simple? (depth : Nat) (s : List Char) : Option (Node × List Char) :=
  match number? s, quoted? s with
  | some (n, r), _ => some (.number n, skip depth r)
  | none, some (bytes, r) =>
    (afterQuoted? depth s.length bytes (skip depth r)).map fun r ↦ (.value true, r)
  | none, none =>
    let word := String.ofList (s.takeWhile isWordChar)
    if word ∈ constants then some (.value true, skip depth (s.dropWhile isWordChar))
    else if word = "set" then afterSetWord? depth (skip depth (s.dropWhile isWordChar))
    else match s with
      | '.' :: '.' :: '.' :: r => some (.value true, skip depth r)
      | _ => none

mutual

/-- A part of a literal, with what stands behind it and the gaps there. The first number bounds the parts that are
read. -/
def part? : (steps depth : Nat) → List Char → Option (Node × List Char)
  | 0, _, _ => none
  | n + 1, depth, s => match s with
    | [] => none
    | '(' :: s =>
      if maxDepth ≤ depth then none
      else match skip (depth + 1) s with
        | ')' :: r => some (.value true, skip depth r)
        | s => match sum? n (depth + 1) s with
          | some (.setWord, ')' :: r) => afterSetWord? depth (skip depth r)
          | some (node, ')' :: r) => some (node, skip depth r)
          | some (node, ',' :: r) => match items? n (depth + 1) ')' (skip (depth + 1) r) with
            | some (areKeys, r) =>
              if node = .setWord then none else some (.value (node.isKey && areKeys), skip depth r)
            | none => none
          | _ => none
    | '{' :: s =>
      if maxDepth ≤ depth then none
      else match skip (depth + 1) s with
        | '}' :: r => some (.value false, skip depth r)
        | s => match sum? n (depth + 1) s with
          | none => none
          | some (node, r) =>
            let rest := match node.isKey, r with
              | true, '}' :: r => some r
              | true, ',' :: r => match items? n (depth + 1) '}' (skip (depth + 1) r) with
                | some (true, r) => some r
                | _ => none
              | true, ':' :: r => members? n (depth + 1) (skip (depth + 1) r)
              | _, _ => none
            rest.map fun r ↦ (.value false, skip depth r)
    | s => simple? depth s

/-- A part, perhaps with a sign, or the sum of a real and an imaginary number. -/
def sum? : (steps depth : Nat) → List Char → Option (Node × List Char)
  | 0, _, _ => none
  | n + 1, depth, s =>
    let (isSigned, r) := match s with
      | '+' :: r => (true, skip depth r)
      | '-' :: r => (true, skip depth r)
      | r => (false, r)
    match part? n depth r with
    | none => none
    | some (node, r) => match if isSigned then node.sign? else some node with
      | none => none
      | some left =>
        let second := match r with
          | '+' :: r => some r
          | '-' :: r => some r
          | _ => none
        match second with
        | none => some (left, r)
        | some r => match left.isReal, part? n depth (skip depth r) with
          | true, some (.number .imaginary, r) => some (.value true, r)
          | _, _ => none

/-- The items behind a comma and the bracket that closes them: whether all of them are keys, and what stands
behind the bracket. -/
def items? : (steps depth : Nat) → (close : Char) → List Char → Option (Bool × List Char)
  | 0, _, _, _ => none
  | n + 1, depth, close, s =>
    if s.head? = some close then some (true, s.tail)
    else match sum? n depth s with
      | none => none
      | some (.setWord, _) => none
      | some (node, c :: r) =>
        if c = close then some (node.isKey, r)
        else if c = ',' then (items? n depth close (skip depth r)).map fun p ↦ (node.isKey && p.1, p.2)
        else none
      | some (_, []) => none

/-- What stands behind a dictionary, from the value of one of its keys on. -/
def members? : (steps depth : Nat) → List Char → Option (List Char)
  | 0, _, _ => none
  | n + 1, depth, s => match sum? n depth s with
    | none => none
    | some (.setWord, _) => none
    | some (_, '}' :: r) => some r
    | some (_, ',' :: r) => match skip depth r with
      | '}' :: r => some r
      | r => match sum? n depth r with
        | some (key, ':' :: r) => if key.isKey then members? n depth (skip depth r) else none
        | _ => none
    | some (_, _) => none

end

/-- A line without any part of a literal. -/
def isBareLine (line : List Char) : Bool :=
  match line.dropWhile isGap with
  | [] => true
  | c :: _ => c = '#'

/-- Nothing but comments is left. -/
def isEnd (s : List Char) : Bool := (Text.splitOn '\n' s).all isBareLine

/-- Literals with commas between them, up to the end. -/
def areItems : (steps : Nat) → List Char → Bool
  | 0, _ => false
  | n + 1, s => isEnd s || match sum? (6 * s.length + 6) 0 s with
    | none => false
    | some (.setWord, _) => false
    | some (_, ',' :: r) => areItems n (skip 0 r)
    | some (_, r) => isEnd r

/-- Every line end as a line feed. -/
def unifyLineEnds : List Char → List Char
  | [] => []
  | c :: s =>
    if c = '\r' then match s with
      | '\n' :: s => '\n' :: unifyLineEnds s
      | s => '\n' :: unifyLineEnds s
    else c :: unifyLineEnds s

/-- The text from the first part of a literal on. Only comments may stand on lines in front of it, and then it is
not indented. -/
def unindented? (s : List Char) : Option (List Char) :=
  let lines := Text.splitOn '\n' s
  let rest := lines.dropWhile isBareLine
  let gap := (rest.headD []).takeWhile isGap
  if rest.length = lines.length ∨ gap.getLast?.all (· = '\x0c') then
    some ((Text.joinWith '\n' rest).dropWhile isGap)
  else none

end Literal

open Literal

/-- The text holds a literal, or several with commas between them, and nothing else. -/
def isLiteral (s : List Char) : Bool :=
  !s.contains '\x00' && match unindented? (unifyLineEnds s) with
    | none => false
    | some s => !isEnd s && areItems (s.length + 1) s

end ClusterMatrix.Markup

import ClusterMatrix.Text.Split

/-!
# Punycode

A text as ASCII: its ASCII characters, a hyphen, and numbers that say where the others are to be inserted. A
number is written with digits of base 36, the least significant first, and the digits that end a number
depend on a bias that follows the numbers written so far.
-/

namespace ClusterMatrix.Text.Punycode

def digit (n : Nat) : Char := Char.ofNat (if n < 26 then 'a'.toNat + n else '0'.toNat + (n - 26))

/-- The bias after a number is written, when the text has `count` characters. -/
def adapt (delta count : Nat) (first : Bool) : Nat :=
  let start := if first then delta / 700 else delta / 2
  let rec scale : (fuel delta k : Nat) → Nat
    | 0, _, k => k
    | n + 1, delta, k => if 455 < delta then scale n (delta / 35) (k + 36) else k + 36 * delta / (delta + 38)
  scale (start + start / count + 1) (start + start / count) 0

/-- The digits of a number, from the place `k` on. -/
def number (bias : Nat) : (fuel k n : Nat) → List Char
  | 0, _, _ => []
  | f + 1, k, n =>
    let least := min 26 (max 1 (k - bias))
    if n < least then [digit n]
    else digit (least + (n - least) % (36 - least)) :: number bias f (k + 36) ((n - least) / (36 - least))

/-- What is known between two characters: how far the next number has counted, the bias, the characters placed
and the digits written. -/
structure State where
  delta : Nat
  bias : Nat
  placed : Nat
  written : List Char

/-- Counts the characters of the text below `n`, and writes a number at each one that is `n`. -/
def State.pass (basic n : Nat) (s : List Char) (state : State) : State :=
  s.foldl (fun t c ↦
    if c.toNat < n then { t with delta := t.delta + 1 }
    else if c.toNat = n then
      ⟨0, adapt t.delta (t.placed + 1) (t.placed == basic), t.placed + 1,
        t.written ++ number t.bias (t.delta + 1) 36 t.delta⟩
    else t) state

/-- Goes through the code points that are beyond ASCII, in ascending order, and begins at `n`. -/
def State.passes (basic : Nat) (s : List Char) (n : Nat) (state : State) : List Nat → State
  | [] => state
  | m :: ms =>
    let state := { state with delta := state.delta + (m - n) * (state.placed + 1) }
    let state := state.pass basic m s
    passes basic s (m + 1) { state with delta := state.delta + 1 } ms

def ascending (ns : List Nat) : List Nat := (ns.mergeSort (· ≤ ·)).eraseDups

def encode (s : List Char) : List Char :=
  let basic := s.filter fun c ↦ c.toNat < 128
  let points := ascending ((s.filter fun c ↦ 128 ≤ c.toNat).map Char.toNat)
  let written := (State.passes basic.length s 128 ⟨0, 72, basic.length, []⟩ points).written
  if basic.isEmpty then written else basic ++ '-' :: written

/-- Why a text is no Punycode: it ends within a number, it has a sign that is no digit, or it asks for a code point
that is too large. -/
inductive Fault where
  | cutShort
  | noDigit
  | tooLarge
deriving DecidableEq, Repr

def digitValue? (c : Char) : Option Nat :=
  if c.isAlpha then some (c.toLower.toNat - 'a'.toNat)
  else if c.isDigit then some (c.toNat - '0'.toNat + 26)
  else none

/-- Reads a number from the place `k` on, where a digit counts `weight` times: its value, and what follows. -/
def readNumber (bias : Nat) : (k weight : Nat) → List Char → Except Fault (Nat × List Char)
  | _, _, [] => .error .cutShort
  | k, weight, c :: s => match digitValue? c with
    | none => .error .noDigit
    | some d =>
      let least := min 26 (max 1 (k - bias))
      if d < least then .ok (d * weight, s)
      else (readNumber bias (k + 36) (weight * (36 - least)) s).map fun p ↦ (d * weight + p.1, p.2)

/-- Inserts the characters that the numbers in a text stand for into the code points `placed`. What the insertion
before has led to is a code point and a place behind it. A substitute may stand for a code point that is too
large. The first number bounds the insertions. -/
def insertions (substitute : Option Nat) : (bound : Nat) → (placed : List Nat) → (point place bias : Nat) → (first : Bool) →
    List Char → List Nat × Option Fault
  | 0, placed, _, _, _, _, _ => (placed, none)
  | _ + 1, placed, _, _, _, _, [] => (placed, none)
  | n + 1, placed, point, place, bias, first, c :: s => match readNumber bias 36 1 (c :: s) with
    | .error f => (placed, some f)
    | .ok (delta, rest) =>
      let count := placed.length + 1
      let place := place + delta
      let point := point + place / count
      let place := place % count
      match if 0x10FFFF < point then substitute else some point with
      | none => (placed, some .tooLarge)
      | some point =>
        insertions substitute n (placed.take place ++ point :: placed.drop place) point (place + 1)
          (adapt delta count first) false rest

/-- The code points that a text stands for, as far as it can be read, and what is wrong with it. -/
def decode (s : List Char) : List Nat × Option Fault :=
  match cutLast '-' s with
  | (basic, numbers) =>
    insertions none (numbers.length + 1) ((basic.getD []).map Char.toNat) 128 0 72 true numbers

end ClusterMatrix.Text.Punycode

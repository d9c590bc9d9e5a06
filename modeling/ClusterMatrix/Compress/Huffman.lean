import ClusterMatrix.Compress.Bits

/-!
# Huffman codes

A code is given by the lengths of its words: words of one length are ascending numbers, and begin behind the
shorter ones. A code whose words do not use up all there are is incomplete.
-/

namespace ClusterMatrix.Compress

structure Code where
  /-- The number of words of length one, two, and so on. -/
  counts : List Nat
  /-- The symbols in the order of their words. -/
  symbols : Array Nat
deriving Repr

namespace Code

def maxLength : Nat := 15

/-- The code in which the `n`-th symbol has a word of the `n`-th length, or none if that is zero. -/
def ofLengths (lengths : List Nat) : Code :=
  let longest := max 1 (lengths.foldl max 0)
  let ofLength (n : Nat) : List Nat :=
    (lengths.zipIdx.filter fun p ↦ p.1 = n).map Prod.snd
  let words := (List.range longest).map fun n ↦ ofLength (n + 1)
  ⟨words.map List.length, words.flatten.toArray⟩

/-- How many more words of the longest length there is room for: below zero if there are too many. -/
def room (c : Code) : Int := c.counts.foldl (fun (left : Int) (n : Nat) ↦ 2 * left - n) 1

/-- The words use up all the room. A code without words is sound too, and if `short` allows it, so is one of a
single word of one bit. -/
def isSound (short : Bool) (c : Code) : Bool :=
  c.symbols.isEmpty || c.room = 0 || (short && 0 < c.room && c.counts.length = 1)

/-- Reads a word behind the bits of `code`, where the words of the next length begin with twice the number
`first`. -/
def walk (symbols : Array Nat) : (counts : List Nat) → (code first index : Nat) → Reader (Option Nat)
  | [], _, _, _ => return none
  | n :: ns, code, first, index => do
    let code := 2 * code + (← Reader.bit)
    if code < first + n then return symbols[index + (code - first)]?
    else walk symbols ns code (2 * (first + n)) (index + n)

/-- Reads a symbol. There is none for bits that are no word. -/
def read (c : Code) : Reader (Option Nat) := walk c.symbols c.counts 0 0 0

end Code

end ClusterMatrix.Compress

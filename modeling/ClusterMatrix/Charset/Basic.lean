/-!
# Character sets

A character set tells how bytes are read as characters, with a mark for each stretch of bytes that stands for
none. Most sets are read step by step: so many bytes are some characters, or stand for none.
-/

namespace ClusterMatrix

/-- Characters read, where nothing stands for bytes that are none. -/
abbrev Charset.Read := List (Option Char)

structure Charset where
  read : List UInt8 → Charset.Read

namespace Charset

/-- The text of some bytes, where a replacement character stands for what is no character. -/
def decode (cs : Charset) (bs : List UInt8) : List Char :=
  (cs.read bs).map fun c ↦ c.getD '\uFFFD'

/-- The text of some bytes, if all of them are characters. -/
def decodeExactly? (cs : Charset) (bs : List UInt8) : Option (List Char) :=
  let read := cs.read bs
  if read.all Option.isSome then some (read.filterMap id) else none

/-- The character of a code point, which half of a pair of 16-bit units is none. -/
def character? (n : Nat) : Option Char := if n.isValidChar then some (Char.ofNat n) else none

/-- What stands at the front of some bytes. -/
inductive Step where
  /-- Characters that take `width` bytes. -/
  | chars (cs : Read) (width : Nat)
  /-- As many bytes that stand for no character. -/
  | bad (width : Nat)
  /-- Too few bytes for a character. -/
  | short

/-- One character that takes a byte. -/
def Step.one (c : Char) : Step := .chars [some c] 1

/-- The ASCII character of a byte, or of its last seven bits. -/
def asciiOf (b : UInt8) : Char := Char.ofNat (b.toNat % 128)

/-- Reads step by step from a state on, where a step sees the first byte and the ones behind it. -/
def readSteps {S : Type} (step : S → UInt8 → List UInt8 → S × Step) (state : S) : List UInt8 → Read
  | [] => []
  | b :: r =>
    let (next, found) := step state b r
    match found with
    | .chars cs width => cs ++ readSteps step next (r.drop (width - 1))
    | .bad width => none :: readSteps step next (r.drop (width - 1))
    | .short => [none]
termination_by bs => bs.length
decreasing_by all_goals simp only [List.length_drop, List.length_cons]; omega

/-- A set that is read with a state. -/
def ofSteps {S : Type} (start : S) (step : S → UInt8 → List UInt8 → S × Step) : Charset :=
  ⟨readSteps step start⟩

/-- A set that is read without a state. -/
def ofStep (step : UInt8 → List UInt8 → Step) : Charset := ofSteps () fun _ b r ↦ ((), step b r)

/-- A set of ASCII and of characters that are found by two bytes. -/
def ofPairs (find? : UInt8 → UInt8 → Option (List Char)) : Charset :=
  ofStep fun a r ↦
    if a < 0x80 then .one (asciiOf a)
    else match r with
      | [] => .short
      | b :: _ => match find? a b with
        | some cs => .chars (cs.map some) 2
        | none => .bad 1

end Charset

end ClusterMatrix

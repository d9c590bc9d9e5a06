import ClusterMatrix.Text.Hex
import ClusterMatrix.Text.Names
import ClusterMatrix.Text.Quoted

/-!
# Quoted texts in literals

A text stands between two quotes on one line, or between two triples of quotes on several lines. Letters in front
make it a sequence of bytes, or raw, so that a backslash stands for itself; elsewhere a backslash begins an
escape, and an escape by number or by name has to be complete.
-/

namespace ClusterMatrix.Markup.Literal

structure QuotedKind where
  bytes : Bool
  raw : Bool
deriving DecidableEq, Repr

/-- The kind of a text that has letters in front of its quote. -/
def kindOf? (marks : List Char) : Option QuotedKind :=
  let marks := String.ofList (marks.map Char.toLower)
  if marks = "" ∨ marks = "u" then some ⟨false, false⟩
  else if marks = "r" then some ⟨false, true⟩
  else if marks = "b" then some ⟨true, false⟩
  else if marks = "br" ∨ marks = "rb" then some ⟨true, true⟩
  else none

/-- What stands in front of the closing quote, and what stands behind it. -/
def untilQuote? (quote : Char) : List Char → Option (List Char × List Char)
  | [] => none
  | c :: s =>
    if c = quote then some ([], s)
    else if c = '\n' then none
    else if c = '\\' then match s with
      | [] => none
      | d :: s => (untilQuote? quote s).map fun p ↦ (c :: d :: p.1, p.2)
    else (untilQuote? quote s).map fun p ↦ (c :: p.1, p.2)

/-- What stands in front of three closing quotes, and what stands behind them. -/
def untilQuotes? (quote : Char) : List Char → Option (List Char × List Char)
  | [] => none
  | c :: s =>
    if [quote, quote, quote].isPrefixOf (c :: s) then some ([], s.drop 2)
    else if c = '\\' then match s with
      | [] => none
      | d :: s => (untilQuotes? quote s).map fun p ↦ (c :: d :: p.1, p.2)
    else (untilQuotes? quote s).map fun p ↦ (c :: p.1, p.2)

/-- The text begins with `n` hexadecimal digits. -/
def beginsHex (n : Nat) (s : List Char) : Bool := (s.take n).length = n && (s.take n).all Text.isHex

def hexValue (s : List Char) : Nat := s.foldl (fun n c ↦ 16 * n + (Text.hexValue? c).getD 0) 0

/-- A name between braces at the front is that of a character. -/
def beginsName (s : List Char) : Bool :=
  match s with
  | '\x7b' :: s =>
    let name := s.takeWhile (· ≠ '\x7d')
    name.length < s.length && (Text.characterNamed? name).isSome
  | _ => false

/-- The escape with the letter `c` is complete. -/
def isSoundEscape (bytes : Bool) (c : Char) (s : List Char) : Bool :=
  if c = 'x' then beginsHex 2 s
  else if bytes then true
  else if c = 'u' then beginsHex 4 s
  else if c = 'U' then beginsHex 8 s && hexValue (s.take 8) < 0x110000
  else if c = 'N' then beginsName s
  else true

def areSoundEscapes (bytes : Bool) : List Char → Bool
  | [] => true
  | c :: s =>
    if c = '\\' then match s with
      | [] => true
      | d :: s => isSoundEscape bytes d s && areSoundEscapes bytes s
    else areSoundEscapes bytes s

/-- The text between the quotes is one of its kind. -/
def QuotedKind.admits (kind : QuotedKind) (body : List Char) : Bool :=
  (!kind.bytes || body.all fun c ↦ c.toNat < 0x80) && (kind.raw || areSoundEscapes kind.bytes body)

def isQuote (c : Char) : Bool := c = Text.singleQuote || c = Text.doubleQuote

/-- A quoted text at the front, which may be a sequence of bytes, and what stands behind it. -/
def quoted? (s : List Char) : Option (Bool × List Char) :=
  match kindOf? (s.takeWhile Char.isAlpha), s.dropWhile Char.isAlpha with
  | some kind, quote :: r =>
    if isQuote quote then
      let found :=
        if [quote, quote].isPrefixOf r then untilQuotes? quote (r.drop 2) else untilQuote? quote r
      match found with
      | some (body, rest) => if kind.admits body then some (kind.bytes, rest) else none
      | none => none
    else none
  | _, _ => none

end ClusterMatrix.Markup.Literal

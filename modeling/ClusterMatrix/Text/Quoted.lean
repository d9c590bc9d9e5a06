import ClusterMatrix.Text.Hex
import ClusterMatrix.Text.Printable

/-!
# Quoted text

A text in a message stands between quotes, on one line and without unprintable characters. The
quotes are single, unless the text holds a single quote and no double one.
-/

namespace ClusterMatrix.Text

def singleQuote : Char := '\x27'

def doubleQuote : Char := '\x22'

/-- How one character is written between quotes `q`. -/
def quotedChar (q c : Char) : List Char :=
  if c = q ∨ c = '\\' then ['\\', c]
  else if c = '\t' then ['\\', 't']
  else if c = '\n' then ['\\', 'n']
  else if c = '\r' then ['\\', 'r']
  else if isPrintable c then [c]
  else if c.toNat < 0x100 then '\\' :: 'x' :: hexDigits 2 c.toNat
  else if c.toNat < 0x10000 then '\\' :: 'u' :: hexDigits 4 c.toNat
  else '\\' :: 'U' :: hexDigits 8 c.toNat

def quoteFor (s : List Char) : Char :=
  if singleQuote ∈ s ∧ doubleQuote ∉ s then doubleQuote else singleQuote

def quoted (s : List Char) : List Char :=
  quoteFor s :: s.flatMap (quotedChar (quoteFor s)) ++ [quoteFor s]

end ClusterMatrix.Text

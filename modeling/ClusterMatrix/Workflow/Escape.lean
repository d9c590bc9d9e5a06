/-!
# Escaped data of workflow commands

A percent sign, a carriage return and a line feed are written as three characters each, so that data
stays on its line. Writing works in three passes over the text; the same text comes out if each
character is replaced on its own. Both ways have a reader.
-/

namespace ClusterMatrix.Workflow

/-- Writes `code` for each `c`. -/
def replaceChar (c : Char) (code : List Char) (s : List Char) : List Char :=
  s.flatMap fun d ↦ if d = c then code else [d]

/-- The percent sign goes first: the codes that the later passes write hold one. -/
def escape (s : List Char) : List Char :=
  replaceChar '\n' ['%', '0', 'A']
    (replaceChar '\r' ['%', '0', 'D'] (replaceChar '%' ['%', '2', '5'] s))

def escapeChar (c : Char) : List Char :=
  if c = '%' then ['%', '2', '5']
  else if c = '\r' then ['%', '0', 'D']
  else if c = '\n' then ['%', '0', 'A']
  else [c]

/-- All characters at once. -/
def escapeOnce (s : List Char) : List Char := s.flatMap escapeChar

/-- Reads the codes from left to right; a percent sign without a code stands for itself. -/
def unescape : List Char → List Char
  | '%' :: '2' :: '5' :: r => '%' :: unescape r
  | '%' :: '0' :: 'D' :: r => '\r' :: unescape r
  | '%' :: '0' :: 'A' :: r => '\n' :: unescape r
  | c :: r => c :: unescape r
  | [] => []

/-- Reads one code, from left to right. -/
def replaceCode (a b : Char) (c : Char) : List Char → List Char
  | x :: y :: z :: r =>
    if x = '%' ∧ y = a ∧ z = b then c :: replaceCode a b c r else x :: replaceCode a b c (y :: z :: r)
  | s => s

/-- Reads the codes in three passes, that of the percent sign last. -/
def unescapePasses (s : List Char) : List Char :=
  replaceCode '2' '5' '%' (replaceCode '0' 'A' '\n' (replaceCode '0' 'D' '\r' s))

/-- A text that is one line in which every percent sign begins a code. -/
def isEscaped : List Char → Bool
  | '%' :: '2' :: '5' :: r => isEscaped r
  | '%' :: '0' :: 'D' :: r => isEscaped r
  | '%' :: '0' :: 'A' :: r => isEscaped r
  | c :: r => c ≠ '%' && c ≠ '\r' && c ≠ '\n' && isEscaped r
  | [] => true

end ClusterMatrix.Workflow

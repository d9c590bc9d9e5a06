/-!
# Faults of a JSON text

A fault has a cause and a place. Places are counted in characters, and only a line feed ends a line.
-/

namespace ClusterMatrix.Json

inductive Cause where
  | value
  | comma
  | colon
  | key
  | openString
  | controlCharacter
  | escape
  | unicodeEscape
  | extraData
  | byteOrderMark
deriving DecidableEq, Repr

def Cause.message : Cause → String
  | .value => "Expecting value"
  | .comma => "Expecting ',' delimiter"
  | .colon => "Expecting ':' delimiter"
  | .key => "Expecting property name enclosed in double quotes"
  | .openString => "Unterminated string starting at"
  | .controlCharacter => "Invalid control character at"
  | .escape => "Invalid \\escape"
  | .unicodeEscape => "Invalid \\uXXXX escape"
  | .extraData => "Extra data"
  | .byteOrderMark => "Unexpected UTF-8 BOM (decode using utf-8-sig)"

structure Fault where
  cause : Cause
  line : Nat
  column : Nat
  offset : Nat
deriving DecidableEq, Repr

/-- The fault found in `text` where only `rest` was left to read. -/
def Fault.before (cause : Cause) (text rest : List Char) : Fault :=
  let read := text.take (text.length - rest.length)
  { cause
    line := read.count '\n' + 1
    column := (read.reverse.takeWhile (· ≠ '\n')).length + 1
    offset := read.length }

def Fault.message (f : Fault) : String :=
  f.cause.message ++ ": line " ++ toString f.line ++ " column " ++ toString f.column ++
    " (char " ++ toString f.offset ++ ")"

end ClusterMatrix.Json

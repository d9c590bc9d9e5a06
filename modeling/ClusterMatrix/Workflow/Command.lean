import ClusterMatrix.Workflow.Escape

/-!
# Workflow commands

A command is a line of standard output that the workflow runner reads: it sets an output, or reports
an error.
-/

namespace ClusterMatrix.Workflow

inductive Command where
  | setOutput (name value : String)
  | error (message : String)
deriving DecidableEq, Repr

namespace Command

def outputMark : List Char := "::set-output name=".toList

def errorMark : List Char := "::error::".toList

/-- The text of a command without the line feed that ends it. -/
def text : Command → List Char
  | .setOutput name value => outputMark ++ name.toList ++ ':' :: ':' :: escape value.toList
  | .error message => errorMark ++ escape message.toList

def line (c : Command) : List Char := c.text ++ ['\n']

/-- The text up to the first pair of colons, and the text behind it. -/
def cutColons? : List Char → Option (List Char × List Char)
  | ':' :: ':' :: r => some ([], r)
  | c :: r => (cutColons? r).map fun p ↦ (c :: p.1, p.2)
  | [] => none

/-- Reads the text of one command. -/
def read? (s : List Char) : Option Command :=
  if errorMark.isPrefixOf s then
    some (.error (String.ofList (unescape (s.drop errorMark.length))))
  else if outputMark.isPrefixOf s then
    (cutColons? (s.drop outputMark.length)).map fun p ↦
      .setOutput (String.ofList p.1) (String.ofList (unescape p.2))
  else none

end Command

end ClusterMatrix.Workflow

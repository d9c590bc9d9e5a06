import ClusterMatrix.Markup.Literal
import ClusterMatrix.Text.Alphanumeric
import ClusterMatrix.Text.Blank

/-!
# Handlers in markup

A tag that begins with an at sign may carry a handler: a dotted name, which literal arguments in round brackets on
one line may follow, or literal values alone.
-/

namespace ClusterMatrix.Markup

def isNameChar (c : Char) : Bool := Text.isAlphanumeric c || c = '_' || c = '.'

/-- The parameters of a tag make a handler. -/
def isHandler (parameters : List Char) : Bool :=
  let s := Text.trim parameters
  match s.dropWhile isNameChar with
  | [] => true
  | c :: r =>
    if c = '(' ∧ r.getLast? = some ')' ∧ '\n' ∉ r then isLiteral (c :: r) else isLiteral s

end ClusterMatrix.Markup

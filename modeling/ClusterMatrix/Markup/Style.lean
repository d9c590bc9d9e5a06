import ClusterMatrix.Markup.Color
import ClusterMatrix.Text.Lower
import ClusterMatrix.Text.Words

/-!
# Styles in markup

A tag is named by a style: attributes, a colour, a colour of the ground and a link, in any order. Two names
mean the same tag if their styles have the same canonical text. A name that is no style stands for itself
in lower case.
-/

namespace ClusterMatrix.Markup

/-- The attributes in the order in which the canonical text names them. -/
def attributeNames : List String :=
  ["bold", "dim", "italic", "underline", "blink", "blink2", "reverse", "conceal", "strike", "underline2",
    "frame", "encircle", "overline"]

def attributeAliases : List (String × String) :=
  [("d", "dim"), ("b", "bold"), ("i", "italic"), ("u", "underline"), ("r", "reverse"),
    ("c", "conceal"), ("s", "strike"), ("uu", "underline2"), ("o", "overline")]

/-- The attribute that a word names. -/
def attribute? (word : List Char) : Option String :=
  let name := String.ofList word
  if name ∈ attributeNames then some name else attributeAliases.lookup name

/-- A style under reading: its attributes, the latest first, and what else is set. -/
structure Style where
  attributes : List (String × Bool)
  color : Option (List Char)
  ground : Option (List Char)
  link : Option (List Char)
deriving DecidableEq, Repr

/-- Why words are no style. -/
inductive StyleFault where
  | unknown
  | brokenColor
deriving DecidableEq, Repr

namespace Style

def empty : Style := ⟨[], none, none, none⟩

def read (style : Style) : List (List Char) → Except StyleFault Style
  | [] => .ok style
  | first :: rest =>
    let word := Text.lower first
    if word = "on".toList then
      match rest with
      | [] => .error .unknown
      | next :: rest =>
        let ground := Text.lower next
        match readColor ground with
        | .color => read { style with ground } rest
        | .other => .error .unknown
        | .broken => .error .brokenColor
    else if word = "not".toList then
      match rest with
      | [] => .error .unknown
      | next :: rest => match attribute? next with
        | some a => read { style with attributes := (a, false) :: style.attributes } rest
        | none => .error .unknown
    else if word = "link".toList then
      match rest with
      | [] => .error .unknown
      | link :: rest => read { style with link } rest
    else match attribute? word with
      | some a => read { style with attributes := (a, true) :: style.attributes } rest
      | none => match readColor word with
        | .color => read { style with color := word } rest
        | .other => .error .unknown
        | .broken => .error .brokenColor

def attributeWords (style : Style) : List (List Char) :=
  attributeNames.flatMap fun a ↦ match style.attributes.lookup a with
    | some true => [a.toList]
    | some false => ["not".toList, a.toList]
    | none => []

def canonical (style : Style) : List Char :=
  Text.joinWith ' ' (style.attributeWords ++ style.color.toList ++
    (style.ground.map fun g ↦ ["on".toList, g]).getD [] ++
    (style.link.map fun l ↦ ["link".toList, l]).getD [])

end Style

def noneWord : List Char := "none".toList

/-- The text by which the name of a tag is compared. Only a broken colour has none. -/
def canonicalName (name : List Char) : Option (List Char) :=
  if Text.trim name = noneWord then some noneWord
  else match Style.empty.read (Text.words name) with
    | .ok style => some style.canonical
    | .error .unknown => some (Text.lower (Text.trim name))
    | .error .brokenColor => none

/-- The words of a tag make a style with a broken colour. -/
def isBrokenStyle (words : List Char) : Bool :=
  match Style.empty.read (Text.words words) with
  | .error .brokenColor => true
  | _ => false

end ClusterMatrix.Markup

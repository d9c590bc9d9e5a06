import ClusterMatrix.Text.Split

/-!
# Records of an output file

An output file holds records one behind the other. A record begins with a line of a name, `<<` and a
delimiter; the lines of the value follow, up to the first one that is the delimiter. Every line ends
in a line feed.
-/

namespace ClusterMatrix.Workflow

structure Record where
  name : String
  value : String
deriving DecidableEq, Repr

namespace Record

def text (r : Record) (delimiter : String) : List Char :=
  r.name.toList ++ '<' :: '<' :: delimiter.toList ++ '\n' ::
    (r.value.toList ++ '\n' :: (delimiter.toList ++ ['\n']))

/-- Reads the first line of a record: the name and the delimiter. -/
abbrev HeaderReader := List Char → Option (List Char × List Char)

/-- A name holds neither `=` nor `<<`, and is as long as it can be: of three signs in a row, the first
one still belongs to the name. -/
def header? : HeaderReader
  | '<' :: '<' :: '<' :: r => some (['<'], r)
  | '<' :: '<' :: r => some ([], r)
  | c :: r => if c = '=' then none else (header? r).map fun p ↦ (c :: p.1, p.2)
  | [] => none

/-- A name ends at the first `<<`, even where a third sign follows. -/
def shortHeader? : HeaderReader
  | '<' :: '<' :: r => some ([], r)
  | c :: r => if c = '=' then none else (shortHeader? r).map fun p ↦ (c :: p.1, p.2)
  | [] => none

mutual

/-- Reads the records that some lines hold. -/
def ofLines? (header? : HeaderReader) : List (List Char) → Option (List Record)
  | [] => some []
  | l :: ls => match header? l with
    | some (name, delimiter) => within? header? name delimiter [] ls
    | none => none

/-- Reads on inside a record, of whose value some lines are read. -/
def within? (header? : HeaderReader) (name delimiter : List Char) (value : List (List Char)) :
    List (List Char) → Option (List Record)
  | [] => none
  | l :: ls =>
    if l = delimiter then
      (ofLines? header? ls).map (⟨String.ofList name, String.ofList (Text.joinWith '\n' value)⟩ :: ·)
    else within? header? name delimiter (value ++ [l]) ls

end

/-- The lines of a text, if each of them ends in a line feed. -/
def lines? (s : List Char) : Option (List (List Char)) :=
  if (Text.splitOn '\n' s).getLast? = some [] then some (Text.splitOn '\n' s).dropLast else none

/-- Reads a whole file of records. -/
def decode? (header? : HeaderReader) (s : List Char) : Option (List Record) :=
  (lines? s).bind (ofLines? header?)

end Record

end ClusterMatrix.Workflow

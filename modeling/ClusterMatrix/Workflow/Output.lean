import ClusterMatrix.Environment
import ClusterMatrix.Text.Split
import ClusterMatrix.Workflow.Command
import ClusterMatrix.Workflow.Record

/-!
# Workflow outputs

An output is appended as a record to the file that the environment names, or, where it names none, is
written as a command. What a file system would say of the file is asked of a `Disk`.
-/

namespace ClusterMatrix.Workflow

/-- Why a file cannot be appended to. -/
inductive FileFault where
  | notFound
  | isDirectory
  /-- A name on the way is that of a file. -/
  | notDirectory
  /-- The path holds a null character. -/
  | nullCharacter
  | longName
  /-- The text that is to be written has no bytes. -/
  | noBytes
deriving DecidableEq, Repr

/-- One file that is watched, by its path and content, among the directories and the other files that
exist. -/
structure Disk where
  path : String
  content : Option String
  directories : List String
  files : List String
deriving DecidableEq, Repr

namespace Disk

/-- The most bytes of a name. -/
def maxName : Nat := 255

/-- The most bytes of a path. -/
def maxPath : Nat := 4095

def byteCount (s : List Char) : Nat := (String.ofList s).utf8ByteSize

def isAbsolute (path : String) : Bool := path.toList.head? = some '/'

/-- The names in a path, where a point stands for nothing. -/
def names (path : String) : List (List Char) :=
  (Text.splitOn '/' path.toList).filter fun name ↦ name ≠ [] && name ≠ ['.']

/-- The path through some names. -/
def through (absolute : Bool) (names : List (List Char)) : String :=
  let inner := Text.joinWith '/' names
  String.ofList (if absolute then '/' :: inner else inner)

/-- The names that lead to what a directory knows under a name: two points are the directory that holds it. -/
def below (absolute : Bool) (here : List (List Char)) (name : List Char) : List (List Char) :=
  if name = "..".toList then
    if here.all (· = "..".toList) then if absolute then [] else name :: here else here.dropLast
  else here ++ [name]

/-- Goes through directories. -/
def enter (d : Disk) (absolute : Bool) (here : List (List Char)) :
    List (List Char) → Except FileFault (List (List Char))
  | [] => .ok here
  | name :: names =>
    let next := below absolute here name
    if maxName < byteCount name then .error .longName
    else if through absolute next ∈ d.directories then enter d absolute next names
    else if through absolute next ∈ d.files then .error .notDirectory
    else .error .notFound

/-- The place that a path leads to, where a file may be or be made. The path of the watched file leads there. -/
def place (d : Disk) (path : String) : Except FileFault String :=
  let absolute := isAbsolute path
  if path = d.path then .ok path
  else if '\x00' ∈ path.toList then .error .nullCharacter
  else if maxPath < byteCount (through absolute (names path)).toList then .error .longName
  else match d.enter absolute [] (names path).dropLast, (names path).getLast? with
    | .error f, _ => .error f
    | .ok _, none => .error .isDirectory
    | .ok here, some name =>
      let place := through absolute (below absolute here name)
      if maxName < byteCount name then .error .longName
      else if name = "..".toList ∨ place ∈ d.directories then .error .isDirectory
      else .ok place

/-- Appends to a file. The content is kept of the watched file alone. -/
def append (d : Disk) (path : String) (text : List Char) : Except FileFault Disk :=
  match d.place path with
  | .error f => .error f
  | .ok place =>
    if place = d.path then .ok { d with content := some (d.content.getD "" ++ String.ofList text) }
    else .ok d

end Disk

def outputVariable : String := "GITHUB_OUTPUT"

/-- The file that takes the outputs. -/
def outputPath? (env : Environment) : Option String := given? (env.get? outputVariable)

/-- The delimiter of a record, made of an identifier that no value is expected to hold. -/
def delimiter (id : String) : String := "ghadelimiter_" ++ id

/-- The disk after the file of the outputs is opened, which makes it if it is not there. -/
def openOutput (env : Environment) (d : Disk) : Except FileFault Disk :=
  match outputPath? env with
  | some path => d.append path []
  | none => .ok d

/-- The disk after an output is set, and what is written to standard output. -/
def setOutput (r : Record) (id : String) (env : Environment) (d : Disk) :
    Except FileFault (Disk × List Char) :=
  match outputPath? env with
  | some path => match d.append path (r.text (delimiter id)) with
    | .ok d => .ok (d, [])
    | .error f => .error f
  | none => .ok (d, (Command.setOutput r.name r.value).line)

end ClusterMatrix.Workflow

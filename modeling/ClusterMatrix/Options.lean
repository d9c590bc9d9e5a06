import ClusterMatrix.Text.Numeral

/-!
# Options of the command line

The first argument may name a job; without a name the job is `matrix`. Options stand in any order, each at most
once, with the value behind an equals sign or as the next argument. Arguments that are no options have no
place, and two hyphens end the options. In the name of an option an underscore may stand for a hyphen.
-/

namespace ClusterMatrix

inductive Format where
  | json
  | table
deriving DecidableEq, Repr

/-- The options that every job has. -/
structure Options where
  token : Option String
  distributions : Option String
  endpoint : Option String
  format : Format
deriving DecidableEq, Repr

inductive Job where
  | matrix (options : Options) (verbose : Bool)
  | versions (options : Options) (latest : Bool)
deriving DecidableEq, Repr

namespace Options

/-- The options read so far; each can be given once. -/
structure Given where
  token : Option String
  distributions : Option String
  endpoint : Option String
  format : Option Format
  flag : Option Bool
deriving DecidableEq, Repr

namespace Given

def nothing : Given := ⟨none, none, none, none, none⟩

def options (g : Given) (format : Format) : Options :=
  ⟨g.token, g.distributions, g.endpoint, g.format.getD format⟩

end Given

def yesWords : List String := ["yes", "y", "1", "true", "t"]

def noWords : List String := ["no", "n", "0", "false", "f"]

/-- Reads the value of a flag, in either case. -/
def readBool? (value : String) : Option Bool :=
  let word := String.ofList (value.toList.map Char.toLower)
  if word ∈ yesWords then some true else if word ∈ noWords then some false else none

def readFormat? (value : String) : Option Format :=
  if value = "json" then some .json else if value = "table" then some .table else none

/-- An option that takes a value. -/
inductive Key where
  | token
  | distributions
  | endpoint
  | format
deriving DecidableEq, Repr

def key? (name : String) : Option Key :=
  if name = "--token" then some .token
  else if name = "--include-distributions" then some .distributions
  else if name = "--endpoint" then some .endpoint
  else if name = "--fmt" then some .format
  else none

/-- Whether a name sets the flag or takes it back. -/
def flag? (flag name : String) : Option Bool :=
  if name = "--" ++ flag then some true else if name = "--no-" ++ flag then some false else none

/-- Sets what is not set yet. -/
def once {α : Type} (value : α) : Option α → Option α
  | none => some value
  | some _ => none

def Given.put (g : Given) (value : String) : Key → Option Given
  | .token => (once value g.token).map fun v ↦ { g with token := v }
  | .distributions => (once value g.distributions).map fun v ↦ { g with distributions := v }
  | .endpoint => (once value g.endpoint).map fun v ↦ { g with endpoint := v }
  | .format => match readFormat? value with
    | some f => (once f g.format).map fun v ↦ { g with format := v }
    | none => none

def Given.raise (g : Given) (value : Bool) : Option Given :=
  (once value g.flag).map fun v ↦ { g with flag := v }

/-- What begins with a hyphen and is a value all the same: a number or a slice. -/
def isNumeric (s : List Char) : Bool :=
  if s = ['-', 'j'] ∨ s = ['-', 'J'] then false
  else Text.isComplex s || Text.isMarkedInteger s || Text.isSlice s

/-- An argument that is no value: it begins with a hyphen and is no number. -/
def isOption (s : List Char) : Bool := s.head? = some '-' && !isNumeric s

/-- The name of an option, where underscores behind its two hyphens stand for hyphens. -/
def hyphenated (name : String) : String :=
  String.ofList (name.toList.take 2 ++ (name.toList.drop 2).map fun c ↦ if c = '_' then '-' else c)

/-- Cuts an argument at its first equals sign. -/
def cutValue (argument : String) : String × Option String :=
  match Text.cut '=' argument.toList with
  | (name, value) => (hyphenated (String.ofList name), value.map String.ofList)

/-- Reads an option that brings its value along. -/
def readAssigned (flag name value : String) (g : Given) : Option Given :=
  match key? name with
  | some k => g.put value k
  | none => match flag? flag name, readBool? value with
    | some sense, some b => g.raise (sense == b)
    | _, _ => none

/-- Reads the arguments behind the name of a job that has the given flag. -/
def read (flag : String) (g : Given) : List String → Option Given
  | [] => some g
  | argument :: rest => match cutValue argument with
    | (name, some value) => match readAssigned flag name value g with
      | some g => read flag g rest
      | none => none
    | (name, none) => match key? name with
      | some k => match rest with
        | [] => none
        | value :: rest =>
          if isOption value.toList then none
          else match g.put value k with
            | some g => read flag g rest
            | none => none
      | none => match flag? flag name with
        | some sense => match g.raise sense with
          | some g => read flag g rest
          | none => none
        | none => none

/-- Reads the arguments up to two hyphens, behind which nothing may stand. -/
def readAll (flag : String) (arguments : List String) : Option Given :=
  match arguments.dropWhile (· ≠ "--") with
  | _ :: _ :: _ => none
  | _ => read flag .nothing (arguments.takeWhile (· ≠ "--"))

def matrix? (arguments : List String) : Option Job :=
  (readAll "verbose" arguments).map fun g ↦ .matrix (g.options .json) (g.flag.getD false)

def versions? (arguments : List String) : Option Job :=
  (readAll "latest" arguments).map fun g ↦ .versions (g.options .table) (g.flag.getD false)

end Options

/-- The job that some arguments ask for, unless they are misused. -/
def Job.ofArguments? : List String → Option Job
  | [] => Options.matrix? []
  | name :: rest =>
    if name = "matrix" then Options.matrix? rest
    else if name = "versions" then Options.versions? rest
    else Options.matrix? (name :: rest)

end ClusterMatrix

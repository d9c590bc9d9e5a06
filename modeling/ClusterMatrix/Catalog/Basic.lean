import ClusterMatrix.Json.Basic
import ClusterMatrix.Text.Quoted

/-!
# Catalogs

A catalog is a list of entries of which nothing is known before it is looked at: an entry is any JSON
value. A distribution is named by the field `short_name` of its entry, and its versions are what the
field `versions` holds.
-/

namespace ClusterMatrix.Catalog

/-- Why a catalog cannot be used. -/
inductive Fault where
  /-- A value is of another kind than its place asks for. -/
  | wrongKind
  | noField (name : String)
  | malformed (raw : String)
  | malformedRagged (raw : Text.Ragged)
deriving DecidableEq, Repr

/-- The message about a version text without a number to read. -/
def malformedMessage (raw : String) : String :=
  "Cannot coerce version: " ++ String.ofList (Text.quoted raw.toList)

/-- The message of a fault, if it has one. -/
def Fault.message? : Fault → Option String
  | .malformed raw => some (malformedMessage raw)
  | .malformedRagged raw => some ("Cannot coerce version: " ++ String.ofList raw.quoted)
  | _ => none

/-- The items that a value holds, where a text holds its characters and an object its keys. -/
def items : Json → Except Fault (List Json)
  | .arr vs => .ok vs
  | .str s => .ok (s.toList.map fun c ↦ .str (String.ofList [c]))
  | .ragged r => .ok (r.codes.map fun n ↦ .ofCodes [n])
  | .obj ms => .ok (ms.map fun m ↦ .ofText m.1)
  | _ => .error .wrongKind

def field (name : String) : Json → Except Fault Json
  | .obj ms => match ms.lookup (.whole name) with
    | some v => .ok v
    | none => .error (.noField name)
  | _ => .error .wrongKind

/-- A name can be looked up in a set: it is neither an array nor an object. -/
def isName : Json → Bool
  | .arr _ => false
  | .obj _ => false
  | _ => true

/-- The name of an entry. -/
def name (entry : Json) : Except Fault Json :=
  match field "short_name" entry with
  | .ok v => if isName v then .ok v else .error .wrongKind
  | .error f => .error f

def versions (entry : Json) : Except Fault Json := field "versions" entry

/-- The names of the entries, unless one of them has none. -/
def names : List Json → Except Fault (List Json)
  | [] => .ok []
  | e :: es => match name e with
    | .error f => .error f
    | .ok n => match names es with
      | .error f => .error f
      | .ok ns => .ok (n :: ns)

end ClusterMatrix.Catalog

import ClusterMatrix.Catalog.Basic
import ClusterMatrix.Version.Coerce

/-!
# The latest version

The latest of several version texts is the first one that no other exceeds, as it was written. A text
is read only if it has to be compared, so a single one is taken unread, whatever it is. Nulls at the
front count as nothing.
-/

namespace ClusterMatrix.Catalog

/-- The version that a value spells. -/
def spelled : Json → Except Fault Version
  | .str s => match Version.coerce? s.toList with
    | some v => .ok v
    | none => .error (.malformed s)
  | .ragged r => match Version.coerce? r.shown with
    | some v => .ok v
    | none => .error (.malformedRagged r)
  | _ => .error .wrongKind

/-- The latest of `best`, which spells `v`, and the values behind it. -/
def latestFrom (best : Json) (v : Version) : List Json → Except Fault Json
  | [] => .ok best
  | c :: cs => match spelled c with
    | .error f => .error f
    | .ok w => if v < w then latestFrom c w cs else latestFrom best v cs

/-- The latest of some values, or nothing if there are none. -/
def latest? (vs : List Json) : Except Fault (Option Json) :=
  match vs.dropWhile Json.isNull with
  | [] => .ok none
  | [v] => .ok (some v)
  | v :: vs => match spelled v with
    | .error f => .error f
    | .ok w => match latestFrom v w vs with
      | .error f => .error f
      | .ok best => .ok (some best)

end ClusterMatrix.Catalog

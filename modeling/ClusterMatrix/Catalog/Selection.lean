import ClusterMatrix.AllowList
import ClusterMatrix.Catalog.Latest
import ClusterMatrix.Event
import ClusterMatrix.Json.Display

/-!
# Selecting versions

A review goes through the entries of a catalog in order and comes to a verdict on each of them: it is
skipped, has no versions, or gives a selection. The review ends at the first entry that cannot be
judged. Events and selections are read off the verdicts.
-/

namespace ClusterMatrix.Catalog

/-- The latest version of a distribution. -/
structure Selection where
  distribution : Json
  version : Json
deriving DecidableEq

inductive Verdict where
  | skipped (name : Json)
  | bare (name : Json)
  | selected (s : Selection)
deriving DecidableEq

/-- The verdict on an entry, where `admits` tells the names that are wanted. -/
def judge (admits : Json → Bool) (entry : Json) : Except Fault Verdict :=
  match name entry with
  | .error f => .error f
  | .ok n =>
    if admits n then
      match versions entry with
      | .error f => .error f
      | .ok held => match items held with
        | .error f => .error f
        | .ok vs => match latest? vs with
          | .error f => .error f
          | .ok none => .ok (.bare n)
          | .ok (some v) => .ok (.selected ⟨n, v⟩)
    else .ok (.skipped n)

/-- The verdicts up to the first entry that has none, and what was wrong with it. -/
structure Review where
  verdicts : List Verdict
  fault? : Option Fault
deriving DecidableEq

def review (admits : Json → Bool) : List Json → Review
  | [] => ⟨[], none⟩
  | e :: es => match judge admits e with
    | .error f => ⟨[], some f⟩
    | .ok v => ⟨v :: (review admits es).verdicts, (review admits es).fault?⟩

def Verdict.selection? : Verdict → Option Selection
  | .selected s => some s
  | _ => none

def Verdict.event? : Verdict → Option Event
  | .skipped n => some (.log .debug (.concat ["Skipping distribution ", n.display]))
  | .bare n => some (.log .warning (.concat ["Distribution ", n.display, " has no versions, omitting"]))
  | .selected _ => none

def Review.events (r : Review) : List Event := r.verdicts.filterMap Verdict.event?

def Review.selections (r : Review) : Except Fault (List Selection) :=
  match r.fault? with
  | some f => .error f
  | none => .ok (r.verdicts.filterMap Verdict.selection?)

/-- The names on an allow list; no other value is one of them. -/
def admits (allow : AllowList) (v : Json) : Bool := v.toText?.any (· ∈ allow)

/-- The review of a catalog under an allow list. -/
def select (allow : AllowList) (catalog : List Json) : Review := review (admits allow) catalog

/-- The review under the names of the catalog itself, which admits every entry. -/
def selectAll (catalog : List Json) : Review := review (fun _ ↦ true) catalog

/-- The allowed names that no entry of the catalog has, in ascending order. -/
def missing (allow : AllowList) (catalog : List Json) : Except Fault (List Text) :=
  match names catalog with
  | .error f => .error f
  | .ok listed => .ok (allow.names.filter fun n ↦ .ofText n ∉ listed)

/-- The entries whose name is on the allow list. -/
def restrict (allow : AllowList) : List Json → Except Fault (List Json)
  | [] => .ok []
  | e :: es => match name e with
    | .error f => .error f
    | .ok n => match restrict allow es with
      | .error f => .error f
      | .ok kept => .ok (if admits allow n then e :: kept else kept)

def Selection.toJson (s : Selection) : Json :=
  .obj [("distribution", s.distribution), ("version", s.version)]

end ClusterMatrix.Catalog

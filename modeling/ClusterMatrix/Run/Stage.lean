import ClusterMatrix.Catalog.Basic
import ClusterMatrix.Event
import ClusterMatrix.Http.Client
import ClusterMatrix.Markup.Shown
import ClusterMatrix.Table.Basic
import ClusterMatrix.Workflow.Output

/-!
# Stages of a run

A stage reports events, sends requests, and either comes to a result or stops the run. Stages are joined one
behind the other: a stage that stops hides the ones behind it.
-/

namespace ClusterMatrix.Run

/-- A fault that ends a run without a message. -/
inductive Unhandled where
  | catalog (f : Catalog.Fault)
  | markup (f : Markup.Fault)
  /-- A cell of a table is neither a text nor null. -/
  | notText
  | table (f : Table.Fault)
  | file (f : Workflow.FileFault)
  | longInteger
  | breakdown (b : Http.Breakdown)
deriving DecidableEq, Repr

/-- A text is shown in several pieces: tabs divide it, and it may be folded. -/
def isDivided (s : List Char) : Bool :=
  s.any (fun c ↦ c = '\n' || c = '\t') || Table.screenWidth < Text.width (Text.trimEnd s)

/-- Why a notice cannot be shown, if it cannot. The text of a notice is markup and stands behind a mark. A style that
covers nothing is lost in a divided text. -/
def noticeFault? (mark text : String) : Option Markup.Fault :=
  match Markup.shown text.toList with
  | .error f => some f
  | .ok t =>
    let divided := isDivided (mark.toList ++ ' ' :: t.text)
    if t.spans.any fun s ↦ s.isBroken && (s.start < s.stop || !divided) then some .brokenColor else none

/-- Why a run stops early. -/
inductive Stop where
  | failed (message : String)
  | unhandled (u : Unhandled)
deriving DecidableEq, Repr

@[ext]
structure Stage (A : Type) where
  events : List Event
  requests : List Http.Request
  result : Except Stop A

namespace Stage

variable {A B : Type}

def bind (x : Stage A) (k : A → Stage B) : Stage B :=
  match x.result with
  | .error s => ⟨x.events, x.requests, .error s⟩
  | .ok a => ⟨x.events ++ (k a).events, x.requests ++ (k a).requests, (k a).result⟩

instance : Monad Stage where
  pure a := ⟨[], [], .ok a⟩
  bind := bind

@[simp] theorem pure_eq (a : A) : (pure a : Stage A) = ⟨[], [], .ok a⟩ := rfl

theorem bind_of_error {x : Stage A} {s : Stop} (h : x.result = .error s) (k : A → Stage B) :
    x >>= k = ⟨x.events, x.requests, .error s⟩ := by
  change bind x k = _
  rw [bind, h]

theorem bind_of_ok {x : Stage A} {a : A} (h : x.result = .ok a) (k : A → Stage B) :
    x >>= k = ⟨x.events ++ (k a).events, x.requests ++ (k a).requests, (k a).result⟩ := by
  change bind x k = _
  rw [bind, h]

@[simp] theorem events_of_bind_error {x : Stage A} {s : Stop} (h : x.result = .error s)
    (k : A → Stage B) : (x >>= k).events = x.events := by rw [bind_of_error h]

@[simp] theorem requests_of_bind_error {x : Stage A} {s : Stop} (h : x.result = .error s)
    (k : A → Stage B) : (x >>= k).requests = x.requests := by rw [bind_of_error h]

/-- A bind comes to a result if both of its stages do. -/
theorem result_bind_eq_ok_iff {x : Stage A} {k : A → Stage B} {b : B} :
    (x >>= k).result = .ok b ↔ ∃ a, x.result = .ok a ∧ (k a).result = .ok b := by
  cases h : x.result with
  | error s => simp [bind_of_error h]
  | ok a => simp [bind_of_ok h]

instance : LawfulMonad Stage := .mk' Stage
  (fun x ↦ by
    change bind x (fun a ↦ ⟨[], [], .ok a⟩) = x
    obtain ⟨events, requests, result⟩ := x
    cases result <;> simp [bind])
  (fun a k ↦ by
    change bind ⟨[], [], .ok a⟩ k = k a
    simp [bind])
  (fun x k l ↦ by
    change bind (bind x k) l = bind x (fun a ↦ bind (k a) l)
    obtain ⟨events, requests, result⟩ := x
    cases result with
    | error s => rfl
    | ok a =>
      cases h : (k a).result with
      | error s => simp [bind, h]
      | ok b => simp [bind, h, List.append_assoc])

def report (events : List Event) : Stage Unit := ⟨events, [], .ok ()⟩

def stop (s : Stop) : Stage A := ⟨[], [], .error s⟩

def fail (message : String) : Stage A := stop (.failed message)

def abort (u : Unhandled) : Stage A := stop (.unhandled u)

/-- The result of a step, where a fault is left unhandled. -/
def orAbort {E : Type} (unhandled : E → Unhandled) : Except E A → Stage A
  | .ok a => pure a
  | .error e => abort (unhandled e)

/-- Tells the user something. -/
def inform (text : Text) : Stage Unit :=
  match noticeFault? "i" text.shown with
  | none => report [.info text]
  | some f => ⟨[.info text], [], .error (.unhandled (.markup f))⟩

end Stage

end ClusterMatrix.Run

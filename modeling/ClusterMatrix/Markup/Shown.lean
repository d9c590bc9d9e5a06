import ClusterMatrix.Markup.Emoji
import ClusterMatrix.Markup.Handler
import ClusterMatrix.Markup.Style
import ClusterMatrix.Markup.Tag
import ClusterMatrix.Text.Spanned

/-!
# What markup shows

Tags show nothing: what is left of a markup text are its runs of characters, with the emoji in place and
without the control characters that move the cursor. A closing tag needs an open one of its name, or, if it
has no name, any open one. The parameters of a tag are part of its style, which is read only when the
characters that it covers are drawn.
-/

namespace ClusterMatrix.Markup

/-- What is wrong with a markup text. -/
inductive Fault where
  | unmatched
  | badHandler
  | brokenColor
deriving DecidableEq, Repr

/-- A tag that waits for its closing one: its canonical name and its parameters, and the number of characters that
are shown in front of it. -/
structure OpenTag where
  name : List Char
  parameters : Option (List Char)
  start : Nat
deriving DecidableEq, Repr

/-- Takes the innermost tag of a name out of the open tags, or the innermost of all. -/
def close? (name : Option (List Char)) : List OpenTag → Option (OpenTag × List OpenTag)
  | [] => none
  | t :: ts =>
    if name.all (· = t.name) then some (t, ts)
    else (close? name ts).map fun p ↦ (p.1, t :: p.2)

/-- The tag can be closed, which means for a tag with a handler that the handler is sound. -/
def OpenTag.isSound (t : OpenTag) : Bool :=
  match t.name, t.parameters with
  | '@' :: _, some (c :: s) => isHandler (c :: s)
  | _, _ => true

/-- The name of a closing tag, or nothing where the innermost tag is meant. -/
def closingName (name : List Char) : Except Fault (Option (List Char)) :=
  match Text.trim name with
  | [] => .ok none
  | c :: s => match canonicalName (c :: s) with
    | some n => .ok (some n)
    | none => .error .brokenColor

def OpenTag.isHandler (t : OpenTag) : Bool := t.name.head? = some '@'

/-- The style of a tag has a broken colour. -/
def OpenTag.isBroken (t : OpenTag) : Bool := t.parameters.any fun words ↦ isBrokenStyle (t.name ++ ' ' :: words)

/-- The characters up to `stop` that a tag covers. -/
def OpenTag.span (t : OpenTag) (stop : Nat) : Text.Span := ⟨t.start, stop, t.isBroken⟩

/-- What is known behind a part of a markup text. -/
structure Progress where
  opened : List OpenTag
  shown : Text.Spanned
deriving DecidableEq, Repr

/-- The progress after one more tag. -/
def Progress.turn (p : Progress) (name : List Char) (parameters : Option (List Char)) :
    Except Fault Progress :=
  match name with
  | '/' :: name => match closingName name with
    | .error f => .error f
    | .ok name => match close? name p.opened with
      | none => .error .unmatched
      | some (t, rest) =>
        if !t.isSound then .error .badHandler
        else
          let span := { t.span p.shown.text.length with isBroken := !t.isHandler && t.isBroken }
          .ok ⟨rest, ⟨p.shown.text, p.shown.spans ++ [span]⟩⟩
  | name => match canonicalName name with
    | some name => .ok { p with opened := ⟨name, parameters, p.shown.text.length⟩ :: p.opened }
    | none => .error .brokenColor

/-- What is shown at the end, where all tags close. -/
def Progress.finish (p : Progress) : Text.Spanned :=
  ⟨p.shown.text, p.shown.spans ++ p.opened.map (·.span p.shown.text.length)⟩

/-- Drops the backslash in front of an opening bracket. -/
def unslashed : List Char → List Char
  | [] => []
  | [c] => [c]
  | c :: d :: s => if c = '\\' ∧ d = '[' then '[' :: unslashed s else c :: unslashed (d :: s)

/-- Bell, backspace, vertical tab, form feed and carriage return. -/
def isCursorControl (c : Char) : Bool := [7, 8, 11, 12, 13].contains c.toNat

/-- A run of characters as it is shown. -/
def shownRun (s : List Char) : List Char :=
  (withEmoji (unslashed s)).filter fun c ↦ !isCursorControl c

def Progress.show (p : Progress) (run : List Char) : Progress :=
  { p with shown := { p.shown with text := p.shown.text ++ shownRun run } }

def Progress.pieces (p : Progress) : List Piece → Except Fault Text.Spanned
  | [] => .ok p.finish
  | .plain s :: ps | .literal s :: ps => (p.show s).pieces ps
  | .tag name parameters :: ps => match p.turn name parameters with
    | .error f => .error f
    | .ok p => p.pieces ps

def Progress.start : Progress := ⟨[], ⟨[], []⟩⟩

/-- What a markup text shows. -/
def shown (s : List Char) : Except Fault Text.Spanned := Progress.start.pieces (pieces s)

@[simp] theorem shown_nil : shown [] = .ok ⟨[], []⟩ := by
  simp [shown, Progress.pieces, Progress.start, Progress.finish]

theorem unslashed_of_not_mem {s : List Char} (h : '[' ∉ s) : unslashed s = s := by
  fun_induction unslashed s with
  | case1 => rfl
  | case2 => rfl
  | case3 c d s hcd => simp [hcd.2] at h
  | case4 c d s hcd ih => rw [ih (fun hm ↦ h (List.mem_cons_of_mem c hm))]

/-- A text without an opening bracket is a single run. -/
theorem shown_of_not_mem {s : List Char} (h : '[' ∉ s) : shown s = .ok ⟨shownRun s, []⟩ := by
  cases s with
  | nil => simp [shownRun, unslashed]
  | cons c s =>
    simp [shown, pieces_of_not_mem h, Progress.pieces, Progress.show, Progress.start, Progress.finish]

end ClusterMatrix.Markup

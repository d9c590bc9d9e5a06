/-!
# Tags in markup

A tag stands in square brackets and begins with a small letter, a number sign, a slash or an at sign. Each two
backslashes in front of a tag stand for one, and a single one that is left over makes the tag plain text.
-/

namespace ClusterMatrix.Markup

/-- A piece of markup: a run of characters, a literal text made of backslashes, or a tag. -/
inductive Piece where
  | plain (text : List Char)
  | literal (text : List Char)
  | tag (name : List Char) (parameters : Option (List Char))
deriving DecidableEq, Repr

def beginsTag (c : Char) : Bool := ('a' ≤ c && c ≤ 'z') || c == '#' || c == '/' || c == '@'

/-- What stands in front of the next closing bracket, unless an opening one comes first, and what stands
behind it. -/
def beforeClosing? : List Char → Option (List Char × List Char)
  | [] => none
  | c :: s =>
    if c = ']' then some ([], s)
    else if c = '[' then none
    else (beforeClosing? s).map fun p ↦ (c :: p.1, p.2)

theorem length_lt_of_beforeClosing? {s body rest : List Char}
    (h : beforeClosing? s = some (body, rest)) : rest.length < s.length := by
  induction s generalizing body with
  | nil => simp [beforeClosing?] at h
  | cons c s ih =>
    rw [beforeClosing?] at h
    split at h
    · obtain ⟨-, rfl⟩ := Prod.mk.inj (Option.some.inj h)
      simp
    · split at h
      · simp at h
      · obtain ⟨⟨b, r⟩, hp, hr⟩ := Option.map_eq_some_iff.1 h
        obtain ⟨-, rfl⟩ := Prod.mk.inj hr
        exact Nat.lt_succ_of_lt (ih hp)

/-- The body of a tag at the front, and what stands behind the tag. -/
def bracketedTag? : List Char → Option (List Char × List Char)
  | '[' :: c :: s =>
    if beginsTag c then (beforeClosing? s).map fun p ↦ (c :: p.1, p.2) else none
  | _ => none

/-- The number of backslashes in front of a tag at the front, the body of the tag, and the rest. -/
def tagAt? (s : List Char) : Option (Nat × List Char × List Char) :=
  (bracketedTag? (s.dropWhile (· == '\\'))).map fun p ↦ ((s.takeWhile (· == '\\')).length, p)

theorem length_lt_of_bracketedTag? {s body rest : List Char}
    (h : bracketedTag? s = some (body, rest)) : rest.length < s.length := by
  unfold bracketedTag? at h
  split at h
  · split at h
    · obtain ⟨⟨b, r⟩, hp, hr⟩ := Option.map_eq_some_iff.1 h
      obtain ⟨-, rfl⟩ := Prod.mk.inj hr
      exact Nat.lt_succ_of_lt (Nat.lt_succ_of_lt (length_lt_of_beforeClosing? hp))
    · simp at h
  · simp at h

theorem length_lt_of_tagAt? {s body rest : List Char} {n : Nat}
    (h : tagAt? s = some (n, body, rest)) : rest.length < s.length := by
  obtain ⟨⟨b, r⟩, hp, hr⟩ := Option.map_eq_some_iff.1 h
  obtain ⟨-, h⟩ := Prod.mk.inj hr
  obtain ⟨-, rfl⟩ := Prod.mk.inj h
  exact Nat.lt_of_lt_of_le (length_lt_of_bracketedTag? hp) (List.dropWhile_suffix _).length_le

theorem tagAt?_nil : tagAt? [] = none := rfl

/-- The tag with a body, which an equals sign cuts into name and parameters. -/
def tagOfBody (body : List Char) : Piece :=
  match body.dropWhile (· != '=') with
  | [] => .tag body none
  | _ :: parameters => .tag (body.takeWhile (· != '=')) (some parameters)

/-- A tag behind backslashes. -/
def tagPieces (slashes : Nat) (body : List Char) : List Piece :=
  let literal := if slashes < 2 then [] else [Piece.literal (List.replicate (slashes / 2) '\\')]
  literal ++ [if slashes % 2 = 1 then .literal ('[' :: body ++ [']']) else tagOfBody body]

/-- Puts a character in front of the run that comes first. -/
def addPlain (c : Char) : List Piece → List Piece
  | .plain t :: ps => .plain (c :: t) :: ps
  | ps => .plain [c] :: ps

def pieces : List Char → List Piece
  | [] => []
  | c :: s => match h : tagAt? (c :: s) with
    | some (slashes, body, rest) =>
      have := length_lt_of_tagAt? h
      tagPieces slashes body ++ pieces rest
    | none => addPlain c (pieces s)
termination_by s => s.length
decreasing_by
  · exact this
  · exact Nat.lt_succ_self _

@[simp] theorem pieces_nil : pieces [] = [] := by rw [pieces]

theorem pieces_of_tagAt? {s body rest : List Char} {n : Nat} (h : tagAt? s = some (n, body, rest)) :
    pieces s = tagPieces n body ++ pieces rest := by
  cases s with
  | nil => simp [tagAt?_nil] at h
  | cons c s =>
    rw [pieces]
    split
    · rename_i e
      rw [h] at e
      cases e
      rfl
    · rename_i e
      rw [h] at e
      cases e

theorem pieces_cons {c : Char} {s : List Char} (h : tagAt? (c :: s) = none) :
    pieces (c :: s) = addPlain c (pieces s) := by
  rw [pieces]
  split
  · rename_i e
    rw [h] at e
    cases e
  · rfl

theorem bracketedTag?_of_not_mem {s : List Char} (h : '[' ∉ s) : bracketedTag? s = none := by
  unfold bracketedTag?
  split
  · simp at h
  · rfl

theorem tagAt?_of_not_mem {s : List Char} (h : '[' ∉ s) : tagAt? s = none := by
  rw [tagAt?, bracketedTag?_of_not_mem, Option.map_none]
  exact fun hm ↦ h ((List.dropWhile_suffix _).subset hm)

/-- A text without an opening bracket has no tag. -/
theorem pieces_of_not_mem {s : List Char} (h : '[' ∉ s) (hs : s ≠ []) : pieces s = [.plain s] := by
  induction s with
  | nil => exact absurd rfl hs
  | cons c s ih =>
    rw [pieces_cons (tagAt?_of_not_mem h)]
    rw [List.mem_cons, not_or] at h
    cases s with
    | nil => simp [addPlain]
    | cons d s => rw [ih h.2 (by simp), addPlain]

end ClusterMatrix.Markup

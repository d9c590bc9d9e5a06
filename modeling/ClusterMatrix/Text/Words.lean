import ClusterMatrix.Text.Blank

/-!
# Words

A chunk is a word with the blank characters behind it; those in front of the first word go to the first
chunk. The chunks of a text with at least one word give the text when they are joined.
-/

namespace ClusterMatrix.Text

/-- Puts a character in front of the first piece, or apart from it. -/
def prepend (c : Char) (apart : Bool) : List (List Char) → List (List Char)
  | [] => [[c]]
  | p :: ps => if apart then [c] :: p :: ps else (c :: p) :: ps

theorem flatten_prepend (c : Char) (apart : Bool) (ps : List (List Char)) :
    (prepend c apart ps).flatten = c :: ps.flatten := by
  cases ps with
  | nil => rfl
  | cons p ps => cases apart <;> rfl

def beginsWord : List Char → Bool
  | [] => false
  | c :: _ => !isBlank c

/-- Cuts a text in front of each character that is not blank and follows a blank one. -/
def cutAtWords : List Char → List (List Char)
  | [] => []
  | c :: s => prepend c (isBlank c && beginsWord s) (cutAtWords s)

theorem flatten_cutAtWords (s : List Char) : (cutAtWords s).flatten = s := by
  induction s with
  | nil => rfl
  | cons c s ih => rw [cutAtWords, flatten_prepend, ih]

def chunks (s : List Char) : List (List Char) :=
  match cutAtWords (trimStart s) with
  | [] => []
  | p :: ps => (s.takeWhile isBlank ++ p) :: ps

theorem flatten_chunks {s : List Char} (h : chunks s ≠ []) : (chunks s).flatten = s := by
  have e := flatten_cutAtWords (trimStart s)
  unfold chunks at h ⊢
  cases hc : cutAtWords (trimStart s) with
  | nil =>
    rw [hc] at h
    exact absurd rfl h
  | cons p ps =>
    rw [hc, List.flatten_cons] at e
    simp [e, trimStart, List.takeWhile_append_dropWhile]

/-- The words of a text, without blanks. -/
def words (s : List Char) : List (List Char) := (chunks s).map trim

end ClusterMatrix.Text

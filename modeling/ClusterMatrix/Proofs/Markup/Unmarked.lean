import Mathlib.Data.List.TakeWhile
import ClusterMatrix.Markup.Shown

/-!
# Texts without markup

A text is shown as it is if no tag begins in it, no backslash stands before an opening bracket, and no emoji is named.
Of a text without colons, which names no emoji, nothing else is shown as it is: what markup takes away from it, it takes
along with an opening bracket or a backslash.
-/

namespace ClusterMatrix.Markup

variable {s t body rest : List Char} {c : Char} {n : Nat}

/-- Nothing in the text is markup. -/
structure IsUnmarked (s : List Char) : Prop where
  noTag : ∀ t, t <:+ s → tagAt? t = none
  unslashed_eq : unslashed s = s
  withEmoji_eq : withEmoji s = s

/-- A text without opening brackets and colons has no markup. -/
theorem isUnmarked_of_not_mem (hb : '[' ∉ s) (hc : ':' ∉ s) : IsUnmarked s := by
  refine ⟨fun t ht ↦ ?_, unslashed_of_not_mem hb, withEmoji_of_not_mem hc⟩
  exact tagAt?_of_not_mem fun hm ↦ hb (ht.subset hm)

theorem pieces_of_noTag (h : ∀ t, t <:+ s → tagAt? t = none) (hs : s ≠ []) : pieces s = [.plain s] := by
  induction s with
  | nil => exact absurd rfl hs
  | cons c s ih =>
    rw [pieces_cons (h _ (List.suffix_refl _))]
    cases s with
    | nil => rw [pieces_nil, addPlain.eq_def]
    | cons d s =>
      rw [ih (fun t ht ↦ h t (ht.trans (List.suffix_cons c _))) (List.cons_ne_nil d s)]
      rfl

/-- Without markup a text is shown as it is. -/
theorem shown_of_isUnmarked (h : IsUnmarked s) (hs : ∀ c ∈ s, isCursorControl c = false) : shown s = .ok (.plain s) := by
  have hrun : shownRun s = s := by
    rw [shownRun, h.unslashed_eq, h.withEmoji_eq, List.filter_eq_self]
    intro c hc
    rw [hs c hc]
    rfl
  cases s with
  | nil => exact shown_nil
  | cons c s =>
    rw [shown, pieces_of_noTag h.noTag (List.cons_ne_nil c s)]
    simp only [Progress.pieces, Progress.show, Progress.start, Progress.finish, hrun, List.nil_append, List.map_nil]
    rfl

/-! ## What is kept of a text -/

/-- The characters of a piece, where backslashes are dropped and no emoji are put in place. -/
def Piece.bare : Piece → List Char
  | .plain s => unslashed s
  | .literal s => unslashed s
  | .tag _ _ => []

/-- The characters of a piece as they are shown. -/
def Piece.kept : Piece → List Char
  | .plain s => shownRun s
  | .literal s => shownRun s
  | .tag _ _ => []

theorem text_of_turn {p p' : Progress} {name : List Char} {parameters : Option (List Char)}
    (h : p.turn name parameters = .ok p') : p'.shown.text = p.shown.text := by
  rw [Progress.turn.eq_def] at h
  split at h
  · split at h
    · cases h
    · split at h
      · cases h
      · split at h
        · cases h
        · cases h
          rfl
  · split at h
    · cases h
      rfl
    · cases h

/-- The text that is shown is what is kept of the pieces. -/
theorem text_of_pieces {ps : List Piece} {p : Progress} {u : Text.Spanned} (h : p.pieces ps = .ok u) :
    u.text = p.shown.text ++ ps.flatMap Piece.kept := by
  induction ps generalizing p with
  | nil =>
    cases h
    exact (List.append_nil _).symm
  | cons piece ps ih =>
    cases piece with
    | plain s =>
      rw [ih h, List.flatMap_cons, ← List.append_assoc]
      rfl
    | literal s =>
      rw [ih h, List.flatMap_cons, ← List.append_assoc]
      rfl
    | tag name parameters =>
      rw [Progress.pieces] at h
      cases hp : p.turn name parameters with
      | error f =>
        rw [hp] at h
        cases h
      | ok p' =>
        rw [hp] at h
        rw [ih h, text_of_turn hp]
        rfl

/-- A backslash before an opening bracket is dropped, and nothing else. -/
theorem unslashed_cons_cases (c : Char) (s : List Char) :
    unslashed (c :: s) = c :: unslashed s ∨ c = '\\' ∧ unslashed (c :: s) = unslashed s := by
  have hne : ∀ {d : Char} (s : List Char), d ≠ '\\' → unslashed (d :: s) = d :: unslashed s := by
    intro d s hd
    cases s with
    | nil => rfl
    | cons e s => rw [unslashed, if_neg fun h ↦ hd h.1]
  cases s with
  | nil => exact .inl rfl
  | cons d s =>
    rw [unslashed]
    split
    · rename_i h
      obtain ⟨rfl, rfl⟩ := h
      exact .inr ⟨rfl, (hne s (by decide)).symm⟩
    · exact .inl rfl

theorem unslashed_sublist (s : List Char) : (unslashed s).Sublist s := by
  induction s with
  | nil => exact List.Sublist.slnil
  | cons c s ih =>
    rcases unslashed_cons_cases c s with h | ⟨-, h⟩
    · rw [h]
      exact ih.cons_cons c
    · rw [h]
      exact ih.cons c

theorem bare_addPlain_cases (c : Char) (ps : List Piece) :
    (addPlain c ps).flatMap Piece.bare = c :: ps.flatMap Piece.bare ∨
      c = '\\' ∧ (addPlain c ps).flatMap Piece.bare = ps.flatMap Piece.bare := by
  rw [addPlain.eq_def]
  split
  · rename_i t ps
    rw [List.flatMap_cons, List.flatMap_cons, Piece.bare, Piece.bare]
    rcases unslashed_cons_cases c t with h | ⟨hc, h⟩
    · rw [h]
      exact .inl rfl
    · rw [h]
      exact .inr ⟨hc, rfl⟩
  · exact .inl rfl

/-! ## Tags -/

theorem eq_of_beforeClosing? (h : beforeClosing? s = some (body, rest)) : s = body ++ ']' :: rest := by
  induction s generalizing body with
  | nil => cases h
  | cons c s ih =>
    rw [beforeClosing?] at h
    split at h
    · rename_i hc
      cases h
      rw [hc]
      rfl
    · split at h
      · cases h
      · obtain ⟨⟨b, r⟩, hp, hr⟩ := Option.map_eq_some_iff.1 h
        cases hr
        rw [ih hp]
        rfl

theorem eq_of_bracketedTag? (h : bracketedTag? s = some (body, rest)) : s = '[' :: (body ++ ']' :: rest) := by
  unfold bracketedTag? at h
  split at h
  · split at h
    · obtain ⟨⟨b, r⟩, hp, hr⟩ := Option.map_eq_some_iff.1 h
      cases hr
      rw [eq_of_beforeClosing? hp]
      rfl
    · cases h
  · cases h

/-- A tag stands in brackets, behind its backslashes. -/
theorem eq_of_tagAt? (h : tagAt? s = some (n, body, rest)) :
    s = List.replicate n '\\' ++ '[' :: (body ++ ']' :: rest) := by
  obtain ⟨⟨b, r⟩, hp, hr⟩ := Option.map_eq_some_iff.1 h
  cases hr
  have hslashes : s.takeWhile (· == '\\') = List.replicate (s.takeWhile (· == '\\')).length '\\' := by
    refine List.eq_replicate_iff.2 ⟨rfl, fun c hc ↦ ?_⟩
    have hslash := List.mem_takeWhile_imp hc
    exact beq_iff_eq.1 hslash
  rw [← eq_of_bracketedTag? hp, ← hslashes, List.takeWhile_append_dropWhile]

/-! ## What markup takes away -/

/-- A character without which there is no tag and no backslash to drop. -/
def isMark (c : Char) : Bool := c = '[' || c = '\\'

/-- How many opening brackets and backslashes a text has. -/
def marks (s : List Char) : Nat := s.countP isMark

theorem marks_nil : marks [] = 0 := rfl

theorem marks_append (s t : List Char) : marks (s ++ t) = marks s + marks t := List.countP_append

theorem marks_cons (c : Char) (s : List Char) : marks (c :: s) = marks [c] + marks s :=
  marks_append [c] s

theorem marks_slashes (n : Nat) : marks (List.replicate n '\\') = n := by
  rw [marks, List.countP_replicate]
  rfl

theorem marks_le_of_sublist (h : s.Sublist t) : marks s ≤ marks t := h.countP_le

theorem bare_tagOfBody (body : List Char) : (tagOfBody body).bare = [] := by
  rw [tagOfBody]
  split <;> rfl

/-- Of a tag and its backslashes less is kept than there was, and all of it in order. -/
theorem bare_tagPieces (n : Nat) (body : List Char) :
    ((tagPieces n body).flatMap Piece.bare).Sublist (List.replicate n '\\' ++ '[' :: (body ++ [']'])) ∧
      marks ((tagPieces n body).flatMap Piece.bare) < marks (List.replicate n '\\' ++ '[' :: (body ++ [']'])) := by
  have hslashes : ((if n < 2 then [] else [Piece.literal (List.replicate (n / 2) '\\')]).flatMap Piece.bare).Sublist
      (List.replicate (n / 2) '\\') := by
    split
    · exact List.nil_sublist _
    · rw [List.flatMap_singleton]
      exact unslashed_sublist _
  have hhalf := marks_le_of_sublist hslashes
  have htag : marks ('[' :: (body ++ [']'])) = 1 + marks (body ++ [']']) := marks_cons _ _
  have hwhole := hslashes.trans (List.replicate_sublist_replicate '\\' |>.2 (Nat.div_le_self n 2))
  rw [marks_slashes] at hhalf
  rw [tagPieces, List.flatMap_append, List.flatMap_singleton, marks_append, marks_append, marks_slashes, htag]
  by_cases hodd : n % 2 = 1
  · have hliteral := unslashed_sublist ('[' :: (body ++ [']']))
    have hle := marks_le_of_sublist hliteral
    rw [htag] at hle
    rw [if_pos hodd]
    refine ⟨hwhole.append hliteral, ?_⟩
    change _ + marks (unslashed ('[' :: (body ++ [']']))) < _
    omega
  · rw [if_neg hodd, bare_tagOfBody]
    refine ⟨hwhole.append (List.nil_sublist _), ?_⟩
    rw [marks_nil]
    omega

/-- What is kept of a text stands in it in order. If no opening bracket and no backslash is lost, all is kept, and
there are no tags. -/
theorem bare_pieces (s : List Char) :
    ((pieces s).flatMap Piece.bare).Sublist s ∧ (marks ((pieces s).flatMap Piece.bare) = marks s →
      (∀ t, t <:+ s → tagAt? t = none) ∧ (pieces s).flatMap Piece.bare = s) := by
  induction hs : s.length using Nat.strongRecOn generalizing s with
  | ind n ih =>
    cases ht : tagAt? s with
    | some p =>
      obtain ⟨slashes, body, rest⟩ := p
      have hrest := (ih _ (hs ▸ length_lt_of_tagAt? ht) rest rfl).1
      obtain ⟨htag, hlt⟩ := bare_tagPieces slashes body
      have hle := marks_le_of_sublist hrest
      have heq : s = (List.replicate slashes '\\' ++ '[' :: (body ++ [']'])) ++ rest := by
        rw [eq_of_tagAt? ht]
        simp
      rw [pieces_of_tagAt? ht, List.flatMap_append, heq]
      refine ⟨htag.append hrest, fun h ↦ ?_⟩
      rw [marks_append, marks_append] at h
      omega
    | none =>
      cases s with
      | nil =>
        rw [pieces_nil]
        refine ⟨List.Sublist.slnil, fun _ ↦ ⟨fun t h ↦ ?_, rfl⟩⟩
        rw [List.suffix_nil.1 h, tagAt?_nil]
      | cons c s =>
        obtain ⟨hsub, hall⟩ := ih s.length (hs ▸ Nat.lt_succ_self _) s rfl
        rw [pieces_cons ht]
        rcases bare_addPlain_cases c (pieces s) with h | ⟨rfl, h⟩
        · rw [h]
          refine ⟨hsub.cons_cons c, fun hm ↦ ?_⟩
          rw [marks_cons, marks_cons c s] at hm
          obtain ⟨hnone, heq⟩ := hall (Nat.add_left_cancel hm)
          refine ⟨fun t hsuffix ↦ ?_, by rw [heq]⟩
          rcases List.suffix_cons_iff.1 hsuffix with rfl | hsuffix
          · exact ht
          · exact hnone t hsuffix
        · rw [h]
          refine ⟨hsub.cons _, fun hm ↦ ?_⟩
          have hle := marks_le_of_sublist hsub
          have hslash : marks ('\\' :: s) = 1 + marks s := marks_cons _ _
          omega

/-- Without colons there are no emoji. -/
theorem shownRun_sublist (h : ':' ∉ unslashed s) : (shownRun s).Sublist (unslashed s) := by
  rw [shownRun, withEmoji_of_not_mem h]
  exact List.filter_sublist

theorem kept_sublist_bare {piece : Piece} (h : ':' ∉ piece.bare) : piece.kept.Sublist piece.bare := by
  cases piece with
  | plain s => exact shownRun_sublist h
  | literal s => exact shownRun_sublist h
  | tag name parameters => exact List.Sublist.slnil

theorem flatMap_kept_sublist {ps : List Piece} (h : ':' ∉ ps.flatMap Piece.bare) :
    (ps.flatMap Piece.kept).Sublist (ps.flatMap Piece.bare) := by
  induction ps with
  | nil => exact List.Sublist.slnil
  | cons piece ps ih =>
    rw [List.flatMap_cons, List.mem_append, not_or] at h
    rw [List.flatMap_cons, List.flatMap_cons]
    exact (kept_sublist_bare h.1).append (ih h.2)

/-- Without colons, what is shown of a text stands in it in order, and some opening bracket or backslash is lost unless
the text has no markup. -/
theorem sublist_of_shown {u : Text.Spanned} (hc : ':' ∉ s) (h : shown s = .ok u) :
    u.text.Sublist s ∧ (marks u.text = marks s → IsUnmarked s) := by
  obtain ⟨hsub, hall⟩ := bare_pieces s
  have htext : u.text = (pieces s).flatMap Piece.kept := text_of_pieces h
  have hkept : u.text.Sublist ((pieces s).flatMap Piece.bare) := by
    rw [htext]
    exact flatMap_kept_sublist fun hm ↦ hc (hsub.subset hm)
  refine ⟨hkept.trans hsub, fun hm ↦ ?_⟩
  have hle := marks_le_of_sublist hkept
  have hle' := marks_le_of_sublist hsub
  obtain ⟨hnone, heq⟩ := hall (by omega)
  refine ⟨hnone, ?_, withEmoji_of_not_mem hc⟩
  cases s with
  | nil => rfl
  | cons c s =>
    rw [pieces_of_noTag hnone (List.cons_ne_nil c s), List.flatMap_singleton] at heq
    exact heq

end ClusterMatrix.Markup

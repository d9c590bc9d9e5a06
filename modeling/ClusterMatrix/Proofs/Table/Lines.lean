import Mathlib.Data.List.Forall2
import ClusterMatrix.Table.Basic
import ClusterMatrix.Proofs.Workflow.Lines

/-!
# The lines of a drawn table

Whatever the cells of a table hold, a line of it is a frame line, the title, or begins with a vertical line. A cell
is cut at its line feeds before it is drawn, and folding, padding and cutting bring in no characters but blanks and
ellipses: so each line that the table means is one line of its text, and none of them begins with a colon.
-/

namespace ClusterMatrix

/-! ## What a computation yields -/

/-- If a computation comes to a result, the result has a property. -/
def Yields {E A : Type} (x : Except E A) (P : A → Prop) : Prop := ∀ a, x = .ok a → P a

namespace Yields

variable {E F A B : Type} {P : A → Prop} {Q : B → Prop}

theorem ok {a : A} (h : P a) : Yields (.ok a : Except E A) P := fun _ he ↦ Except.ok.inj he ▸ h

theorem error (e : E) : Yields (.error e : Except E A) P := fun _ he ↦ nomatch he

/-- Of a result that is not looked at, nothing needs to be known. -/
theorem any (x : Except E A) : Yields x fun _ ↦ True := fun _ _ ↦ trivial

theorem mono {P' : A → Prop} {x : Except E A} (h : Yields x P) (hP : ∀ a, P a → P' a) : Yields x P' :=
  fun a he ↦ hP a (h a he)

theorem bind {x : Except E A} {k : A → Except E B} (h : Yields x P) (hk : ∀ a, P a → Yields (k a) Q) :
    Yields (x >>= k) Q := by
  cases x with
  | error e => exact error e
  | ok a => exact hk a (h a rfl)

theorem map {x : Except E A} {f : A → B} (h : Yields x P) (hf : ∀ a, P a → Q (f a)) : Yields (x.map f) Q := by
  cases x with
  | error e => exact error e
  | ok a => exact ok (hf a (h a rfl))

theorem mapError {x : Except E A} {g : E → F} (h : Yields x P) : Yields (x.mapError g) P := by
  cases x with
  | error e => exact error (g e)
  | ok a => exact ok (h a rfl)

theorem mapM {f : A → Except E B} {xs : List A} (h : ∀ x ∈ xs, Yields (f x) Q) :
    Yields (xs.mapM f) fun ys ↦ ∀ y ∈ ys, Q y := by
  induction xs with
  | nil => exact ok fun _ hy ↦ absurd hy List.not_mem_nil
  | cons x xs ih =>
    rw [List.forall_mem_cons] at h
    rw [List.mapM_cons]
    refine bind h.1 fun y hy ↦ bind (ih h.2) fun ys hys ↦ ?_
    exact ok (List.forall_mem_cons.2 ⟨hy, hys⟩)

end Yields

section

variable {E A B : Type}

/-- What comes to a result has come to one in its first part. -/
theorem exists_ok_of_bind {x : Except E A} {k : A → Except E B} {b : B} (h : x >>= k = .ok b) :
    ∃ a, x = .ok a ∧ k a = .ok b := by
  cases x with
  | error e => cases h
  | ok a => exact ⟨a, rfl, h⟩

/-- Items come to results together just if they do so one by one. -/
theorem mapM_eq_ok_iff {f : A → Except E B} {xs : List A} {ys : List B} :
    xs.mapM f = .ok ys ↔ List.Forall₂ (fun x y ↦ f x = .ok y) xs ys := by
  constructor
  · intro h
    induction xs generalizing ys with
    | nil =>
      cases h
      exact .nil
    | cons x xs ih =>
      rw [List.mapM_cons] at h
      obtain ⟨y, hy, h⟩ := exists_ok_of_bind h
      obtain ⟨zs, hzs, h⟩ := exists_ok_of_bind h
      cases h
      exact .cons hy (ih hzs)
  · intro h
    induction h with
    | nil => rfl
    | cons hy _ ih =>
      rw [List.mapM_cons, hy, ih]
      rfl

/-- Of items that all come to results, each comes to one of them. -/
theorem exists_ok_of_mapM {f : A → Except E B} {xs : List A} {ys : List B} (h : xs.mapM f = .ok ys) :
    ∀ x ∈ xs, ∃ y ∈ ys, f x = .ok y := by
  rw [mapM_eq_ok_iff] at h
  induction h with
  | nil => exact fun _ hx ↦ absurd hx List.not_mem_nil
  | @cons x y xs ys hy _ ih =>
    rw [List.forall_mem_cons]
    refine ⟨⟨y, List.mem_cons_self, hy⟩, fun x' hx ↦ ?_⟩
    obtain ⟨z, hz, hf⟩ := ih x' hx
    exact ⟨z, List.mem_cons_of_mem y hz, hf⟩

end

/-! ## Cutting and padding keep what all characters have in common -/

section Characters

variable {P : Char → Prop}

namespace Text

theorem forall_mem_blanks (hb : P ' ') (n : Nat) : ∀ c ∈ blanks n, P c :=
  fun _ hc ↦ List.eq_of_mem_replicate hc ▸ hb

theorem forall_mem_graphemes {s : List Char} (h : ∀ c ∈ s, P c) : ∀ g ∈ graphemes s, ∀ c ∈ g.text, P c :=
  fun g hg c hc ↦ h c (flatMap_graphemes s ▸ List.mem_flatMap.2 ⟨g, hg, hc⟩)

theorem forall_mem_takeWidth (hb : P ' ') {gs : List Grapheme} (h : ∀ g ∈ gs, ∀ c ∈ g.text, P c) (room : Nat) :
    ∀ c ∈ takeWidth room gs, P c := by
  induction gs generalizing room with
  | nil => exact fun _ hc ↦ absurd hc List.not_mem_nil
  | cons g gs ih =>
    rw [List.forall_mem_cons] at h
    rw [takeWidth]
    split
    · rw [List.forall_mem_append]
      exact ⟨h.1, ih h.2 _⟩
    · split
      · exact fun _ hc ↦ absurd hc List.not_mem_nil
      · rwa [List.forall_mem_singleton]

theorem yields_crop (hb : P ' ') {s : List Char} (h : ∀ c ∈ s, P c) (n : Nat) :
    Yields (crop n s) fun t ↦ ∀ c ∈ t, P c := by
  rw [crop]
  split
  · exact .error _
  · split
    · exact .error _
    · exact .ok (forall_mem_takeWidth hb (forall_mem_graphemes h) n)

theorem yields_setWidth (hb : P ' ') {s : List Char} (h : ∀ c ∈ s, P c) (n : Nat) :
    Yields (setWidth n s) fun t ↦ ∀ c ∈ t, P c := by
  rw [setWidth]
  split
  · exact .ok fun _ hc ↦ absurd hc List.not_mem_nil
  · split
    · exact .ok (List.forall_mem_append.2 ⟨h, forall_mem_blanks hb _⟩)
    · exact yields_crop hb h n

end Text

namespace Table

open Text (Spanned)

namespace Line

theorem yields_crop (hb : P ' ') {l : Line} (h : ∀ c ∈ l.flatten, P c) (room : Nat) :
    Yields (crop room l) fun l' ↦ ∀ c ∈ l'.flatten, P c := by
  induction l generalizing room with
  | nil => exact .ok h
  | cons r rs ih =>
    rw [List.flatten_cons, List.forall_mem_append] at h
    rw [crop]
    split
    · exact (ih h.2 _).map fun rs' hrs ↦ List.forall_mem_append.2 ⟨h.1, hrs⟩
    · refine (Text.yields_setWidth hb h.1 room).map fun r' hr ↦ ?_
      rwa [List.flatten_singleton]

theorem yields_atMost (hb : P ' ') {l : Line} (h : ∀ c ∈ l.flatten, P c) (room : Nat) :
    Yields (atMost room l) fun l' ↦ ∀ c ∈ l'.flatten, P c := by
  rw [atMost]
  split
  · exact .ok h
  · exact yields_crop hb h room

theorem yields_fit (hb : P ' ') {l : Line} (h : ∀ c ∈ l.flatten, P c) (w : Nat) :
    Yields (fit w l) fun l' ↦ ∀ c ∈ l'.flatten, P c := by
  rw [fit]
  split
  · refine .ok ?_
    rw [List.flatten_append, List.forall_mem_append, List.flatten_singleton]
    exact ⟨h, Text.forall_mem_blanks hb _⟩
  · exact yields_crop hb h w

end Line

/-! ## Folding -/

/-- The pieces of a text stand in the text that is cut. -/
theorem text_of_mem_piecesFrom {spans : List Text.Span} {gap first : Nat} {ps : List (List Char)} {q : Spanned}
    (h : q ∈ Spanned.piecesFrom spans gap first ps) : q.text ∈ ps := by
  induction ps generalizing first with
  | nil => exact absurd h List.not_mem_nil
  | cons p ps ih =>
    rw [Spanned.piecesFrom] at h
    rcases List.mem_cons.1 h with rfl | h
    · exact List.mem_cons_self
    · exact List.mem_cons_of_mem p (ih h)

theorem text_of_mem_inPieces {gap : Nat} {t q : Spanned} {ps : List (List Char)} (h : q ∈ t.inPieces gap ps) :
    q = t ∧ ps.length = 1 ∨ q.text ∈ ps := by
  unfold Spanned.inPieces at h
  split at h
  · exact .inl ⟨List.mem_singleton.1 h, rfl⟩
  · exact .inr (text_of_mem_piecesFrom h)

/-- No piece of a text that is cut at a separator holds it. -/
theorem not_mem_of_mem_splitOn {sep : Char} {t q : Spanned} (h : q ∈ t.splitOn sep) : sep ∉ q.text := by
  rcases text_of_mem_inPieces h with ⟨rfl, hl⟩ | h
  · -- a text that is left in one piece is that piece
    obtain ⟨p, hp⟩ := List.length_eq_one_iff.1 hl
    have hj := Text.joinWith_splitOn sep q.text
    rw [hp] at hj
    have hq : q.text ∈ Text.splitOn sep q.text := by
      rw [hp]
      exact List.mem_singleton.2 hj.symm
    exact Text.not_mem_of_mem_splitOn hq
  · exact Text.not_mem_of_mem_splitOn h

theorem forall_mem_expandParts (hb : P ' ') {ps : List Spanned} (h : ∀ p ∈ ps, ∀ c ∈ p.text, P c) (position : Nat) :
    ∀ c ∈ (expandParts position ps).text, P c := by
  induction ps generalizing position with
  | nil => exact fun _ hc ↦ absurd hc List.not_mem_nil
  | cons p ps ih =>
    rw [List.forall_mem_cons] at h
    rw [expandParts]
    split
    · rw [Spanned.text_append, List.forall_mem_append]
      refine ⟨?_, ih h.2 _⟩
      change ∀ c ∈ (p.text.dropLast ++ [' ']) ++ Text.blanks _, P c
      rw [List.forall_mem_append, List.forall_mem_append, List.forall_mem_singleton]
      exact ⟨⟨fun c hc ↦ h.1 c (List.dropLast_subset _ hc), hb⟩, Text.forall_mem_blanks hb _⟩
    · exact h.1

theorem forall_mem_expandTabs (hb : P ' ') {t : Spanned} (h : ∀ c ∈ t.text, P c) :
    ∀ c ∈ (expandTabs t).text, P c := by
  rw [expandTabs]
  split
  · refine forall_mem_expandParts hb (fun p hp c hc ↦ h c ?_) 0
    rw [← flatten_tabbedParts t.text]
    exact List.mem_flatten.2 ⟨p.text, text_of_mem_piecesFrom hp, hc⟩
  · exact h

/-- The lines of a text that is broken give the text when they are joined. -/
theorem flatten_breakLine (w : Nat) (s : List Char) : (breakLine w s).flatten = s := by
  unfold breakLine
  split
  · rw [List.flatten_singleton]
  · rename_i p ps hp
    have hne : Text.chunks s ≠ [] := by
      rw [hp]
      exact List.cons_ne_nil p ps
    rw [flatten_breakChunks, ← List.flatten_cons, ← hp, Text.flatten_chunks hne]

/-- No line of a folded text holds a line feed. -/
theorem newline_not_mem_foldedLines (w : Nat) (t : Spanned) : ∀ q ∈ foldedLines w t, ∀ c ∈ q.text, c ≠ '\n' := by
  intro q hq
  obtain ⟨line, hline, hq⟩ := List.mem_flatMap.1 hq
  obtain ⟨piece, hpiece, rfl⟩ := List.mem_map.1 hq
  have he : ∀ c ∈ (expandTabs line).text, c ≠ '\n' :=
    forall_mem_expandTabs (by decide) fun c hc hn ↦ not_mem_of_mem_splitOn hline (hn ▸ hc)
  have hp : ∀ c ∈ piece.text, c ≠ '\n' := by
    rcases text_of_mem_inPieces hpiece with ⟨rfl, -⟩ | hm
    · exact he
    · intro c hc
      refine he c ?_
      rw [← flatten_breakLine w (expandTabs line).text]
      exact List.mem_flatten.2 ⟨piece.text, hm, hc⟩
  exact fun c hc ↦ hp c (List.mem_of_mem_take hc)

/-! ## Cells and rows -/

theorem yields_truncate (hb : P ' ') (he : P ellipsis) {t : Spanned} (h : ∀ c ∈ t.text, P c) (w : Nat) :
    Yields (truncate w t) fun u ↦ ∀ c ∈ u.text, P c := by
  rw [truncate]
  split
  · exact .ok h
  · refine (Text.yields_setWidth hb h (w - 1)).map fun s hs ↦ ?_
    exact List.forall_mem_append.2 ⟨hs, List.forall_mem_singleton.2 he⟩

theorem yields_fitted (hb : P ' ') (he : P ellipsis) {t : Spanned} (h : ∀ c ∈ t.text, P c) (w : Nat) :
    Yields (fitted w t) fun u ↦ ∀ c ∈ u.text, P c := by
  rw [fitted]
  split
  · exact yields_truncate hb he (List.forall_mem_append.2 ⟨h, Text.forall_mem_blanks hb _⟩) w
  · exact (yields_truncate hb he h w).bind fun u hu ↦ yields_truncate hb he hu w

end Table

end Characters

namespace Table

open Text (Spanned)

/-- No line of a cell holds a line feed. -/
theorem yields_cellLines (w : Nat) (t : Spanned) :
    Yields (cellLines w t) fun lines ↦ ∀ l ∈ lines, ∀ c ∈ l.flatten, c ≠ '\n' := by
  have hf : Yields ((foldedLines w t).mapM (fitted w)) fun us ↦ ∀ u ∈ us, ∀ c ∈ u.text, c ≠ '\n' :=
    .mapM fun q hq ↦ yields_fitted (by decide) (by decide) (newline_not_mem_foldedLines w t q hq) w
  rw [cellLines]
  split
  · exact .error _
  · rename_i us hus
    split
    · exact .error _
    · have hl : Yields (us.mapM fun l ↦ Line.fit w l.runs) fun ls ↦ ∀ l ∈ ls, ∀ c ∈ l.flatten, c ≠ '\n' := by
        refine .mapM fun u hu ↦ Line.yields_fit (by decide) ?_ w
        rw [Spanned.flatten_runs]
        exact hf us hus u hu
      split
      · exact .error _
      · rename_i ls hls
        refine Yields.mapError (.mapM fun l hm ↦ Line.yields_fit (by decide) ?_ (w + 2))
        rw [List.flatten_append, List.flatten_cons, List.flatten_singleton, List.forall_mem_append,
          List.forall_mem_append, List.forall_mem_singleton]
        exact ⟨⟨by decide, hl ls hls l hm⟩, by decide⟩

theorem yields_tallLines {column height : Nat} {lines : List Line} (h : ∀ l ∈ lines, ∀ c ∈ l.flatten, c ≠ '\n') :
    Yields (tallLines column height lines) fun ls ↦ ∀ l ∈ ls, ∀ c ∈ l.flatten, c ≠ '\n' := by
  refine Yields.mapError (.mapM fun l hl ↦ Line.yields_fit (by decide) ?_ column)
  rcases List.mem_append.1 hl with hl | hl
  · exact h l hl
  · rw [List.eq_of_mem_replicate hl, List.flatten_singleton]
    exact Text.forall_mem_blanks (by decide) _

/-! ## Whole tables -/

/-- A line that stays one line when it is written, and begins no command. -/
structure Line.IsQuiet (l : Line) : Prop where
  newline : ∀ c ∈ l.flatten, c ≠ '\n'
  head : l.flatten.head? ≠ some ':'

namespace Line

theorem IsQuiet.of_forall {l : Line} (h : ∀ c ∈ l.flatten, c ≠ '\n' ∧ c ≠ ':') : IsQuiet l :=
  ⟨fun c hc ↦ (h c hc).1, fun hh ↦ (h ':' (List.mem_of_head? hh)).2 rfl⟩

/-- A line stays quiet when it is cut if no part of it could begin a command. -/
theorem yields_isQuiet_of_forall {l : Line} (h : ∀ c ∈ l.flatten, c ≠ '\n' ∧ c ≠ ':') (room : Nat) :
    Yields (atMost room l) IsQuiet :=
  (yields_atMost (by decide) h room).mono fun _ hl ↦ .of_forall hl

/-- A line stays quiet when it is cut if it begins with a bar that fits. -/
theorem yields_isQuiet_of_bar {bar : Char} (hb : bar ≠ ':') {l : Line} {room : Nat}
    (hw : Text.width [bar] < room) (h : ∀ c ∈ List.flatten ([bar] :: l), c ≠ '\n') :
    Yields (atMost room ([bar] :: l)) IsQuiet := by
  have hn := yields_atMost (P := fun c ↦ c ≠ '\n') (by decide) h room
  have hh : Yields (atMost room ([bar] :: l)) fun l' ↦ l'.flatten.head? = some bar := by
    rw [atMost]
    split
    · exact .ok rfl
    · rw [crop, if_pos hw]
      exact (Yields.any _).map fun _ _ ↦ rfl
  intro l' hl
  refine ⟨hn l' hl, ?_⟩
  rw [hh l' hl]
  exact fun he ↦ hb (Option.some.inj he)

end Line

/-- Each line of a row stands between vertical lines. -/
theorem yields_rowLines {bar : Char} (hb : bar ≠ '\n') (columns : Nat × Nat) (row : Row Spanned) :
    Yields (rowLines bar columns row) fun lines ↦
      ∀ l ∈ lines, ∃ rest, l = [bar] :: rest ∧ ∀ c ∈ l.flatten, c ≠ '\n' := by
  refine (yields_cellLines _ _).bind fun left hleft ↦ (yields_cellLines _ _).bind fun right hright ↦ ?_
  refine (yields_tallLines hleft).bind fun left hleft ↦ (yields_tallLines hright).bind fun right hright ↦ .ok ?_
  intro l hl
  obtain ⟨a, ha, b, hb', rfl⟩ : ∃ a ∈ left, ∃ b ∈ right, framed bar a b = l := by
    obtain ⟨i, hi, rfl⟩ := List.getElem_of_mem hl
    rw [List.length_zipWith, Nat.lt_min] at hi
    exact ⟨left[i], List.getElem_mem _, right[i], List.getElem_mem _, (List.getElem_zipWith).symm⟩
  refine ⟨a ++ [bar] :: b ++ [[bar]], rfl, ?_⟩
  rw [framed, List.flatten_append, List.flatten_append, List.flatten_cons, List.flatten_cons,
    List.flatten_singleton]
  simp only [List.forall_mem_append, List.forall_mem_singleton]
  exact ⟨⟨⟨hb, hleft a ha⟩, hb, hright b hb'⟩, hb⟩

theorem forall_mem_rule {P : Char → Prop} {start line cross stop : Char} (h : P start ∧ P line ∧ P cross ∧ P stop)
    (columns : Nat × Nat) : ∀ c ∈ List.flatten (rule start line cross stop columns), P c := by
  rw [rule, List.flatten_singleton, List.forall_mem_append, List.cons_append, List.forall_mem_cons,
    List.forall_mem_append, List.forall_mem_cons, List.forall_mem_singleton]
  exact ⟨⟨h.1, fun c hc ↦ List.eq_of_mem_replicate hc ▸ h.2.1, h.2.2.1,
    fun c hc ↦ List.eq_of_mem_replicate hc ▸ h.2.1⟩, h.2.2.2⟩

theorem forall_mem_titleLine {P : Char → Prop} (hb : P ' ') {t : Table} (h : ∀ c ∈ t.title, P c) :
    ∀ c ∈ t.titleLine.flatten, P c := by
  rw [titleLine, List.flatten_singleton, centred, List.forall_mem_append, List.forall_mem_append]
  exact ⟨⟨Text.forall_mem_blanks hb _, h⟩, Text.forall_mem_blanks hb _⟩

/-- A line of a table is free of colons, or begins with a vertical line. -/
def Line.IsDrawn (l : Line) : Prop :=
  (∀ c ∈ l.flatten, c ≠ '\n' ∧ c ≠ ':') ∨
    ∃ bar rest, bar ≠ ':' ∧ Text.width [bar] < screenWidth ∧ l = [bar] :: rest ∧ ∀ c ∈ l.flatten, c ≠ '\n'

/-- A drawn line is quiet on the screen. -/
theorem Line.IsDrawn.yields_isQuiet {l : Line} (h : l.IsDrawn) : Yields (l.atMost screenWidth) Line.IsQuiet := by
  rcases h with h | ⟨bar, rest, hb, hw, rfl, h⟩
  · exact Line.yields_isQuiet_of_forall h screenWidth
  · exact Line.yields_isQuiet_of_bar hb hw h

theorem yields_isDrawn_rowLines {bar : Char} (hb : bar ≠ '\n' ∧ bar ≠ ':')
    (hw : Text.width [bar] < screenWidth) (columns : Nat × Nat) (row : Row Spanned) :
    Yields (rowLines bar columns row) fun lines ↦ ∀ l ∈ lines, Line.IsDrawn l := by
  refine (yields_rowLines hb.1 columns row).mono fun lines h l hl ↦ ?_
  obtain ⟨rest, he, hn⟩ := h l hl
  exact .inr ⟨bar, rest, hb.2, hw, he, hn⟩

/-- Every line of a table is drawn, if its title could begin no command. -/
theorem yields_lines {t : Table} (h : ∀ c ∈ t.title, c ≠ '\n' ∧ c ≠ ':') :
    Yields t.lines fun lines ↦ ∀ l ∈ lines, Line.IsDrawn l := by
  have hhead : Yields t.headLines fun lines ↦ ∀ l ∈ lines, Line.IsDrawn l := by
    refine (yields_isDrawn_rowLines (by decide) (by decide +kernel) _ _).bind fun names hnames ↦ .ok ?_
    rw [List.cons_append, List.cons_append, List.forall_mem_cons, List.forall_mem_cons, List.forall_mem_append,
      List.forall_mem_singleton]
    exact ⟨.inl (forall_mem_titleLine (by decide) h), .inl (forall_mem_rule (by decide) _), hnames,
      .inl (forall_mem_rule (by decide) _)⟩
  have hbody : Yields t.bodyLines fun lines ↦ ∀ l ∈ lines, Line.IsDrawn l := by
    refine Yields.bind (.mapM fun row _ ↦ yields_isDrawn_rowLines (by decide) (by decide +kernel) t.columns row)
      fun rows hrows ↦ .ok fun l hl ↦ ?_
    obtain ⟨lines, hlines, hl⟩ := List.mem_flatten.1 hl
    exact hrows lines hlines l hl
  refine hhead.bind fun head hhead ↦ hbody.bind fun body hbody ↦ .ok ?_
  rw [List.forall_mem_append, List.forall_mem_append, List.forall_mem_singleton]
  exact ⟨⟨hhead, hbody⟩, .inl (forall_mem_rule (by decide) _)⟩

theorem outputCommands_flatMap_of_isQuiet {ls : List Line} (h : ∀ l ∈ ls, Line.IsQuiet l) :
    Workflow.outputCommands (ls.flatMap fun l ↦ l.flatten ++ ['\n']) = [] := by
  induction ls with
  | nil => rfl
  | cons l ls ih =>
    rw [List.forall_mem_cons] at h
    rw [List.flatMap_cons, List.append_assoc, List.singleton_append,
      Workflow.outputCommands_append_cons fun hm ↦ h.1.newline _ hm rfl,
      Workflow.isOutputCommand_of_head? h.1.head, if_neg Bool.false_ne_true]
    exact ih h.2

/-- The text of a table sets no output, whatever stands in its cells. -/
theorem yields_text {t : Table} (h : ∀ c ∈ t.title, c ≠ '\n' ∧ c ≠ ':') :
    Yields t.text fun s ↦ Workflow.outputCommands s = [] := by
  refine (yields_lines h).bind fun lines hlines ↦ ?_
  refine Yields.bind (Yields.mapError (.mapM fun l hl ↦ (hlines l hl).yields_isQuiet)) fun ls hls ↦ .ok ?_
  exact outputCommands_flatMap_of_isQuiet hls

end Table

end ClusterMatrix

import ClusterMatrix.Proofs.Table.Lines

/-!
# Tables that fit the screen

A table of visible ASCII characters whose columns fit side by side is drawn with one line for each of its rows. Between
vertical lines stand the texts of the row as they are, with blanks behind them. Styles do not show in the text of a
table, but a broken one keeps the table from being drawn.
-/

namespace ClusterMatrix

namespace Text

/-- A character that takes one cell, whatever stands beside it. -/
def IsNarrow (c : Char) : Prop := charWidth c = 1 ∧ c ≠ joiner ∧ c ≠ wideningMark

instance (c : Char) : Decidable (IsNarrow c) := inferInstanceAs (Decidable (_ ∧ _))

variable {s t : List Char}

theorem isNarrow_of_isPlain {c : Char} (h : isPlain c = true) : IsNarrow c := ⟨charWidth_of_isPlain h, ne_of_isPlain h⟩

theorem widthFrom_of_isNarrow (h : ∀ c ∈ s, IsNarrow c) (last : Option Char) : widthFrom last s = s.length := by
  induction s generalizing last with
  | nil => rfl
  | cons c s ih =>
    rw [List.forall_mem_cons] at h
    obtain ⟨⟨hw, hj, hm⟩, hs⟩ := h
    unfold widthFrom
    rw [if_neg hj, if_neg hm, hw, if_neg Nat.one_ne_zero, ih hs, List.length_cons, Nat.add_comm]

theorem width_of_isNarrow (h : ∀ c ∈ s, IsNarrow c) : width s = s.length := widthFrom_of_isNarrow h none

theorem isPlain_of_mem_blanks (n : Nat) : ∀ c ∈ blanks n, isPlain c = true := forall_mem_blanks (by decide) n

theorem trimEnd_sublist (s : List Char) : (trimEnd s).Sublist s := by
  have h := (List.dropWhile_suffix (l := s.reverse) isBlank).sublist.reverse
  rwa [List.reverse_reverse] at h

/-- Without its blanks a plain text is no wider than it is long. -/
theorem width_trimEnd_le (h : ∀ c ∈ s, isPlain c = true) : width (trimEnd s) ≤ s.length := by
  have hsub := trimEnd_sublist s
  rw [width_of_isPlain fun c hc ↦ h c (hsub.subset hc)]
  exact hsub.length_le

end Text

namespace Table

open Text (IsNarrow Spanned isPlain)

namespace Line

variable {l : Line} {w : Nat}

theorem width_of_isNarrow (h : ∀ c ∈ l.flatten, IsNarrow c) : width l = l.flatten.length := by
  induction l with
  | nil => rfl
  | cons r rs ih =>
    rw [List.flatten_cons, List.forall_mem_append] at h
    have hrs : width rs = rs.flatten.length := ih h.2
    rw [List.flatten_cons, List.length_append, ← Text.width_of_isNarrow h.1, ← hrs]
    rfl

/-- A line that is not too wide gets blanks behind it. -/
theorem exists_fit (h : ∀ c ∈ l.flatten, IsNarrow c) (hw : l.flatten.length ≤ w) :
    ∃ l', fit w l = .ok l' ∧ l'.flatten = l.flatten ++ Text.blanks (w - l.flatten.length) := by
  refine ⟨_, if_pos ?_, ?_⟩
  · rwa [width_of_isNarrow h]
  · rw [List.flatten_append, List.flatten_singleton, width_of_isNarrow h]

/-- A line of just the width stays as it is. -/
theorem exists_fit_self (h : ∀ c ∈ l.flatten, IsNarrow c) (hw : l.flatten.length = w) :
    ∃ l', fit w l = .ok l' ∧ l'.flatten = l.flatten := by
  obtain ⟨l', hl, hflat⟩ := exists_fit h (Nat.le_of_eq hw)
  refine ⟨l', hl, ?_⟩
  rw [hflat, hw, Nat.sub_self]
  exact List.append_nil _

end Line

/-! ## Cells -/

variable {w : Nat} {t : Spanned}

theorem mapM_singleton {E A B : Type} {f : A → Except E B} {a : A} {b : B} (h : f a = .ok b) : [a].mapM f = .ok [b] :=
  mapM_eq_ok_iff.2 (.cons h .nil)

/-- Chunks that have room stay on one line. -/
theorem breakChunks_eq {line : List Char} {used : Nat} {ps : List (List Char)} (h : ∀ c ∈ ps.flatten, isPlain c = true)
    (hw : used + ps.flatten.length ≤ w) : breakChunks w line used ps = [line ++ ps.flatten] := by
  induction ps generalizing line used with
  | nil => rw [breakChunks, List.flatten_nil, List.append_nil]
  | cons p ps ih =>
    rw [List.flatten_cons, List.forall_mem_append] at h
    rw [List.flatten_cons, List.length_append] at hw
    have hp : Text.width p = p.length := Text.width_of_isPlain h.1
    have htrim : Text.width (Text.trimEnd p) ≤ p.length := Text.width_trimEnd_le h.1
    rw [breakChunks, if_pos (by omega), ih h.2 (by omega), List.flatten_cons, List.append_assoc]

theorem breakLine_eq {s : List Char} (h : ∀ c ∈ s, isPlain c = true) (hw : s.length ≤ w) : breakLine w s = [s] := by
  rw [breakLine]
  cases hc : Text.chunks s with
  | nil => rfl
  | cons p ps =>
    have hne : Text.chunks s ≠ [] := by
      rw [hc]
      exact List.cons_ne_nil p ps
    have hs : p ++ ps.flatten = s := by rw [← List.flatten_cons, ← hc, Text.flatten_chunks hne]
    rw [← hs, List.forall_mem_append] at h
    rw [← hs, List.length_append, ← Text.width_of_isPlain h.1] at hw
    dsimp only
    rw [breakChunks_eq h.2 hw, hs]

theorem not_mem_of_isPlain {s : List Char} (h : ∀ c ∈ s, isPlain c = true) {c : Char} (hc : isPlain c = false) : c ∉ s := by
  intro hm
  rw [h c hm] at hc
  cases hc

/-- A plain text that has room is not broken. -/
theorem foldedLines_eq (h : ∀ c ∈ t.text, isPlain c = true) (hw : t.text.length ≤ w) : foldedLines w t = [t] := by
  have hdrop : dropOverhang w t = t := by
    rw [dropOverhang, List.take_of_length_le (Nat.le_trans hw (Nat.le_max_left _ _)), Spanned.withText_text]
  rw [foldedLines, Spanned.splitOn_of_not_mem (not_mem_of_isPlain h rfl), List.flatMap_singleton]
  dsimp only
  rw [expandTabs_of_not_mem (not_mem_of_isPlain h rfl), breakLine_eq h hw, Spanned.inPieces, List.map_singleton, hdrop]

/-- Blanks behind a text leave its spans alone. -/
theorem pad_eq (h : ∀ c ∈ t.text, isPlain c = true) :
    pad w t = ⟨t.text ++ Text.blanks (w - t.text.length), t.spans⟩ := by
  rw [pad, Text.width_of_isPlain h, Spanned.withText, if_neg]
  rw [List.length_append]
  omega

theorem fitted_eq (h : ∀ c ∈ t.text, isPlain c = true) (hw : t.text.length ≤ w) :
    fitted w t = .ok ⟨t.text ++ Text.blanks (w - t.text.length), t.spans⟩ := by
  have hplain : ∀ c ∈ t.text ++ Text.blanks (w - t.text.length), isPlain c = true :=
    List.forall_mem_append.2 ⟨h, Text.isPlain_of_mem_blanks _⟩
  rw [fitted, if_pos (by rwa [Text.width_of_isPlain h]), truncate, pad_eq h, if_pos]
  rw [Text.width_of_isPlain hplain, List.length_append, Text.blanks, List.length_replicate]
  omega

/-- A text in a cell of a column: a blank in front, and blanks up to the width of the column behind. -/
def inCell (column : Nat) (s : List Char) : List Char :=
  ' ' :: (s ++ Text.blanks (column - padding - s.length) ++ [' '])

theorem length_inCell {column : Nat} {s : List Char} (h : s.length + padding ≤ column) :
    (inCell column s).length = column := by
  rw [padding] at h
  simp only [inCell, padding, Text.blanks, List.length_cons, List.length_append, List.length_replicate, List.length_nil]
  omega

theorem isPlain_of_mem_inCell {s : List Char} (h : ∀ c ∈ s, isPlain c = true) (column : Nat) :
    ∀ c ∈ inCell column s, isPlain c = true := by
  rw [inCell, List.forall_mem_cons, List.forall_mem_append, List.forall_mem_append, List.forall_mem_singleton]
  exact ⟨rfl, ⟨h, Text.isPlain_of_mem_blanks _⟩, rfl⟩

/-- The line of a cell is as wide as its column. -/
theorem exists_fit_inCell {column : Nat} {l : Line} {s : List Char} (h : ∀ c ∈ s, isPlain c = true)
    (hw : s.length + padding ≤ column) (hl : l.flatten = inCell column s) :
    ∃ l', Line.fit column l = .ok l' ∧ l'.flatten = inCell column s := by
  have hlength := length_inCell hw
  have hplain := isPlain_of_mem_inCell h column
  rw [← hl] at hlength hplain ⊢
  exact Line.exists_fit_self (fun c hc ↦ Text.isNarrow_of_isPlain (hplain c hc)) hlength

/-- A cell that has room for its text has one line. -/
theorem exists_cellLines {column : Nat} (h : ∀ c ∈ t.text, isPlain c = true) (hw : t.text.length + padding ≤ column)
    (hb : t.isBroken = false) :
    ∃ l, cellLines (column - padding) t = .ok [l] ∧ l.flatten = inCell column t.text := by
  have hroom : t.text.length ≤ column - padding := by omega
  have hcolumn : column - padding + 2 = column := by rw [padding] at hw ⊢; omega
  have hnarrow : ∀ c ∈ inCell column t.text, IsNarrow c := fun c hc ↦
    Text.isNarrow_of_isPlain (isPlain_of_mem_inCell h column c hc)
  have hlength := length_inCell hw
  rw [cellLines, foldedLines_eq h hroom, mapM_singleton (fitted_eq h hroom)]
  generalize hu : (⟨t.text ++ Text.blanks (column - padding - t.text.length), t.spans⟩ : Spanned) = u
  have hbroken : [u].any Spanned.isBroken = false := by
    rw [List.any_cons, List.any_nil, Bool.or_false, ← hu]
    exact hb
  -- the runs of the line, with the blanks at both sides that follow below
  have hcell : inCell column t.text = ' ' :: (u.runs.flatten ++ [' ']) := by rw [Spanned.flatten_runs, ← hu, inCell]
  rw [hcell, List.forall_mem_cons, List.forall_mem_append] at hnarrow
  rw [hcell, List.length_cons, List.length_append, List.length_singleton] at hlength
  obtain ⟨l, hl, hflat⟩ := Line.exists_fit_self (w := column - padding) hnarrow.2.1 (by omega)
  have hline : ([' '] :: l ++ [[' ']]).flatten = inCell column t.text := by
    rw [hcell, ← hflat, List.cons_append, List.flatten_cons, List.flatten_append, List.flatten_singleton,
      List.singleton_append]
  obtain ⟨l', hl', hflat'⟩ := exists_fit_inCell h hw hline
  refine ⟨l', ?_, hflat'⟩
  dsimp only
  rw [hbroken, if_neg Bool.false_ne_true,
    mapM_singleton (f := fun l : Spanned ↦ Line.fit (column - padding) l.runs) hl]
  dsimp only
  rw [hcolumn, mapM_singleton (f := fun l : Line ↦ Line.fit column ([' '] :: l ++ [[' ']])) hl']
  rfl

/-- A broken style is found before the lines of a cell are drawn. -/
theorem cellLines_of_isBroken (h : ∀ c ∈ t.text, isPlain c = true) (hw : t.text.length ≤ w) (hb : t.isBroken = true) :
    cellLines w t = .error .brokenStyle := by
  have hbroken : [(⟨t.text ++ Text.blanks (w - t.text.length), t.spans⟩ : Spanned)].any Spanned.isBroken = true := by
    rw [List.any_cons, List.any_nil, Bool.or_false]
    exact hb
  rw [cellLines, foldedLines_eq h hw, mapM_singleton (fitted_eq h hw)]
  dsimp only
  rw [hbroken, if_pos rfl]

/-! ## Rows -/

/-- The line of a row in two columns, between vertical lines. -/
def rowText (bar : Char) (columns : Nat × Nat) (row : Row (List Char)) : List Char :=
  bar :: (inCell columns.1 row.left ++ bar :: (inCell columns.2 row.right ++ [bar]))

def Row.texts (row : Row Spanned) : Row (List Char) := ⟨row.left.text, row.right.text⟩

/-- The texts of a row are plain, and there is room for them. -/
structure Row.HasRoom (columns : Nat × Nat) (row : Row (List Char)) : Prop where
  left : ∀ c ∈ row.left, isPlain c = true
  right : ∀ c ∈ row.right, isPlain c = true
  leftRoom : row.left.length + padding ≤ columns.1
  rightRoom : row.right.length + padding ≤ columns.2

theorem exists_tallLines {column : Nat} {l : Line} {s : List Char} (h : ∀ c ∈ s, isPlain c = true)
    (hw : s.length + padding ≤ column) (hl : l.flatten = inCell column s) :
    ∃ l', tallLines column 1 [l] = .ok [l'] ∧ l'.flatten = inCell column s := by
  obtain ⟨l', hl', hflat⟩ := exists_fit_inCell h hw hl
  refine ⟨l', ?_, hflat⟩
  rw [tallLines, List.length_singleton, Nat.sub_self, List.replicate_zero, List.append_nil, mapM_singleton hl']
  rfl

/-- A row that has room is one line. -/
theorem exists_rowLines {columns : Nat × Nat} {row : Row Spanned} (bar : Char) (h : row.texts.HasRoom columns)
    (hl : row.left.isBroken = false) (hr : row.right.isBroken = false) :
    ∃ l, rowLines bar columns row = .ok [l] ∧ l.flatten = rowText bar columns row.texts := by
  obtain ⟨left, hleft, hleft'⟩ := exists_cellLines h.left h.leftRoom hl
  obtain ⟨right, hright, hright'⟩ := exists_cellLines h.right h.rightRoom hr
  obtain ⟨tallLeft, htl, htl'⟩ := exists_tallLines h.left h.leftRoom hleft'
  obtain ⟨tallRight, htr, htr'⟩ := exists_tallLines h.right h.rightRoom hright'
  refine ⟨framed bar tallLeft tallRight, ?_, ?_⟩
  · rw [rowLines, hleft, hright]
    change (do
      let left ← tallLines columns.1 1 [left]
      let right ← tallLines columns.2 1 [right]
      return List.zipWith (framed bar) left right) = _
    rw [htl, htr]
    rfl
  · rw [framed, List.flatten_append, List.flatten_append, List.flatten_cons, List.flatten_cons, List.flatten_singleton,
      htl', htr']
    simp only [rowText, Row.texts, List.nil_append, List.append_assoc, List.cons_append]

/-- A row with a broken style has no lines. -/
theorem not_isBroken_of_rowLines {bar : Char} {columns : Nat × Nat} {row : Row Spanned} {lines : List Line}
    (h : row.texts.HasRoom columns) (hr : rowLines bar columns row = .ok lines) :
    row.left.isBroken = false ∧ row.right.isBroken = false := by
  obtain ⟨left, hleft, hr⟩ := exists_ok_of_bind hr
  obtain ⟨right, hright, -⟩ := exists_ok_of_bind hr
  constructor
  · cases hb : row.left.isBroken with
    | false => rfl
    | true =>
      rw [cellLines_of_isBroken h.left (Nat.le_sub_of_add_le h.leftRoom) hb] at hleft
      cases hleft
  · cases hb : row.right.isBroken with
    | false => rfl
    | true =>
      rw [cellLines_of_isBroken h.right (Nat.le_sub_of_add_le h.rightRoom) hb] at hright
      cases hright

/-! ## Columns -/

/-- The length of the longest text. -/
def longest (cells : List (List Char)) : Nat := cells.foldr (fun s n ↦ max s.length n) 0

theorem length_le_longest {cells : List (List Char)} : ∀ s ∈ cells, s.length ≤ longest cells := by
  induction cells with
  | nil => exact fun _ hs ↦ absurd hs List.not_mem_nil
  | cons s cells ih =>
    rw [List.forall_mem_cons]
    exact ⟨Nat.le_max_left _ _, fun s' hs ↦ Nat.le_trans (ih s' hs) (Nat.le_max_right _ _)⟩

theorem exists_length_eq_longest (s : List Char) (cells : List (List Char)) :
    ∃ s' ∈ s :: cells, s'.length = longest (s :: cells) := by
  induction cells generalizing s with
  | nil => exact ⟨s, List.mem_cons_self, (Nat.max_zero _).symm⟩
  | cons r cells ih =>
    obtain ⟨r', hr, hlen⟩ := ih r
    have hmax : longest (s :: r :: cells) = max s.length (longest (r :: cells)) := rfl
    rcases Nat.le_total s.length (longest (r :: cells)) with h | h
    · exact ⟨r', List.mem_cons_of_mem s hr, by rw [hlen, hmax, Nat.max_eq_right h]⟩
    · exact ⟨s, List.mem_cons_self, by rw [hmax, Nat.max_eq_left h]⟩

/-- A plain text has a single line. -/
theorem widest_eq {s : List Char} (h : ∀ c ∈ s, isPlain c = true) : widest s = s.length := by
  have hmap : s.map (fun c ↦ if lineEnds.contains c.toNat then '\n' else c) = s.map id := by
    refine List.map_congr_left fun c hc ↦ if_neg ?_
    have hc := h c hc
    simp [isPlain, lineEnds] at hc ⊢
    omega
  rw [widest, hmap, List.map_id, Text.splitOn_of_not_mem (not_mem_of_isPlain h rfl), List.map_singleton, List.foldr_cons,
    List.foldr_nil, Nat.max_zero, Text.width_of_isPlain h]

/-- A column of plain texts asks for the longest of them and the blanks at both sides. -/
theorem natural_eq {s : List Char} {cells : List (List Char)} (h : ∀ r ∈ s :: cells, ∀ c ∈ r, isPlain c = true)
    (hw : ∀ r ∈ s :: cells, r.length + padding ≤ room) : natural (s :: cells) = longest (s :: cells) + padding := by
  induction cells generalizing s with
  | nil =>
    rw [List.forall_mem_singleton] at h hw
    rw [natural, longest, List.foldr_cons, List.foldr_nil, List.foldr_cons, List.foldr_nil, widest_eq h,
      Nat.min_eq_right hw, Nat.max_zero, Nat.max_zero]
  | cons r cells ih =>
    rw [List.forall_mem_cons] at h hw
    have hnatural : natural (s :: r :: cells) = max (min room (widest s + padding)) (natural (r :: cells)) := rfl
    have hlongest : longest (s :: r :: cells) = max s.length (longest (r :: cells)) := rfl
    rw [hnatural, hlongest, ih h.2 hw.2, widest_eq h.1, Nat.min_eq_right hw.1, Nat.add_max_add_right]

theorem share_eq {a b : Nat} (h : a + b ≤ room) : share a b = (a, b) := if_pos h

/-- Plain texts whose columns fit side by side on the screen. -/
structure Fit (rows : List (Row (List Char))) : Prop where
  left : ∀ row ∈ rows, ∀ c ∈ row.left, isPlain c = true
  right : ∀ row ∈ rows, ∀ c ∈ row.right, isPlain c = true
  room : ∀ row ∈ rows, ∀ row' ∈ rows, row.left.length + padding + (row'.right.length + padding) ≤ room

/-- Both texts of a row are plain. -/
def Row.isPlain (row : Row (List Char)) : Bool := row.left.all Text.isPlain && row.right.all Text.isPlain

theorem Fit.of_isPlain {rows : List (Row (List Char))} (h : ∀ row ∈ rows, row.isPlain = true)
    (hr : ∀ row ∈ rows, ∀ row' ∈ rows, row.left.length + padding + (row'.right.length + padding) ≤ Table.room) :
    Fit rows := by
  simp only [Row.isPlain, Bool.and_eq_true, List.all_eq_true] at h
  exact ⟨fun row hrow ↦ (h row hrow).1, fun row hrow ↦ (h row hrow).2, hr⟩

/-- The widths of the columns of some texts. -/
def widths (rows : List (Row (List Char))) : Nat × Nat :=
  (longest (rows.map (·.left)) + padding, longest (rows.map (·.right)) + padding)

section

variable {header : Row (List Char)} {rows : List (Row (List Char))}

theorem Fit.hasRoom (h : Fit rows) : ∀ row ∈ rows, row.HasRoom (widths rows) := by
  intro row hrow
  refine ⟨h.left row hrow, h.right row hrow, ?_, ?_⟩
  · exact Nat.add_le_add_right (length_le_longest _ (List.mem_map_of_mem hrow)) padding
  · exact Nat.add_le_add_right (length_le_longest _ (List.mem_map_of_mem hrow)) padding

theorem Fit.widths_le (h : Fit (header :: rows)) : (widths (header :: rows)).1 + (widths (header :: rows)).2 ≤ Table.room := by
  obtain ⟨left, hleft, hl⟩ := exists_length_eq_longest header.left (rows.map (·.left))
  obtain ⟨right, hright, hr⟩ := exists_length_eq_longest header.right (rows.map (·.right))
  rw [← List.map_cons] at hleft hright
  obtain ⟨row, hrow, rfl⟩ := List.mem_map.1 hleft
  obtain ⟨row', hrow', rfl⟩ := List.mem_map.1 hright
  have hroom := h.room row hrow row' hrow'
  rwa [hl, hr] at hroom

/-- Parts of texts that fit do so as well. -/
theorem Fit.of_sublist {parts : List (Row (List Char))} (h : Fit rows)
    (hparts : ∀ part ∈ parts, ∃ row ∈ rows, part.left.Sublist row.left ∧ part.right.Sublist row.right) : Fit parts := by
  constructor
  · intro part hpart c hc
    obtain ⟨row, hrow, hl, -⟩ := hparts part hpart
    exact h.left row hrow c (hl.subset hc)
  · intro part hpart c hc
    obtain ⟨row, hrow, -, hr⟩ := hparts part hpart
    exact h.right row hrow c (hr.subset hc)
  · intro part hpart part' hpart'
    obtain ⟨row, hrow, hl, -⟩ := hparts part hpart
    obtain ⟨row', hrow', -, hr⟩ := hparts part' hpart'
    have hroom := h.room row hrow row' hrow'
    have hleft := hl.length_le
    have hright := hr.length_le
    omega

/-- A table whose texts fit gives its columns what they ask for. -/
theorem columns_eq {t : Table} (h : Fit (t.header :: t.rows.map Row.texts)) :
    t.columns = widths (t.header :: t.rows.map Row.texts) := by
  have hlefts : t.lefts = (t.header :: t.rows.map Row.texts).map (·.left) := by
    rw [lefts, List.map_cons, List.map_map]
    rfl
  have hrights : t.rights = (t.header :: t.rows.map Row.texts).map (·.right) := by
    rw [rights, List.map_cons, List.map_map]
    rfl
  have hwidths := h.widths_le
  have hleft := fun row hrow ↦ Nat.le_trans (Nat.le_add_right _ _) (h.room row hrow t.header List.mem_cons_self)
  have hright := fun row hrow ↦ Nat.le_trans (Nat.le_add_left _ _) (h.room t.header List.mem_cons_self row hrow)
  rw [columns, hlefts, hrights, List.map_cons, List.map_cons, natural_eq, natural_eq]
  · exact share_eq hwidths
  · rw [← List.map_cons, List.forall_mem_map]
    exact h.right
  · rw [← List.map_cons, List.forall_mem_map]
    exact hright
  · rw [← List.map_cons, List.forall_mem_map]
    exact h.left
  · rw [← List.map_cons, List.forall_mem_map]
    exact hleft

end

/-! ## Whole tables -/

/-- The lines of a table of texts. -/
def pageLines (title : List Char) (header : Row (List Char)) (rows : List (Row (List Char))) : List (List Char) :=
  let columns := widths (header :: rows)
  [centred (columns.1 + columns.2 + 3) title, (rule '┏' '━' '┳' '┓' columns).flatten, rowText '┃' columns header,
    (rule '┡' '━' '╇' '┩' columns).flatten] ++
    rows.map (rowText '│' columns) ++ [(rule '└' '─' '┴' '┘' columns).flatten]

/-- A text of lines, each with a line feed behind it. -/
def unlines (lines : List (List Char)) : List Char := lines.flatMap (· ++ ['\n'])

/-- Results that are read in some way. -/
theorem exists_mapM_eq {E A B C : Type} {f : A → Except E B} {g : A → C} {k : B → C} {xs : List A}
    (h : ∀ x ∈ xs, ∃ y, f x = .ok y ∧ k y = g x) : ∃ ys, xs.mapM f = .ok ys ∧ ys.map k = xs.map g := by
  induction xs with
  | nil => exact ⟨[], rfl, rfl⟩
  | cons x xs ih =>
    rw [List.forall_mem_cons] at h
    obtain ⟨y, hy, hk⟩ := h.1
    obtain ⟨ys, hys, hks⟩ := ih h.2
    refine ⟨y :: ys, mapM_eq_ok_iff.2 (.cons hy (mapM_eq_ok_iff.1 hys)), ?_⟩
    rw [List.map_cons, List.map_cons, hk, hks]

section

variable {t : Table}

/-- The texts of the table fit, with the title over them. -/
structure FitsScreen (t : Table) : Prop where
  title : ∀ c ∈ t.title, isPlain c = true
  titleRoom : t.title.length ≤ screenWidth
  texts : Fit (t.header :: t.rows.map Row.texts)

/-- No row of the table has a broken style. -/
def IsUnbroken (t : Table) : Prop := ∀ row ∈ t.rows, row.left.isBroken = false ∧ row.right.isBroken = false

theorem FitsScreen.exists_bodyLines (h : t.FitsScreen) (hb : t.IsUnbroken) :
    ∃ ls, t.bodyLines = .ok ls ∧ ls.map List.flatten = (t.rows.map Row.texts).map (rowText '│' t.columns) := by
  have hroom := h.texts.hasRoom
  rw [← columns_eq h.texts, List.forall_mem_cons] at hroom
  obtain ⟨ys, hys, hflat⟩ : ∃ ys, t.rows.mapM (rowLines '│' t.columns) = .ok ys ∧
      ys.map (List.map List.flatten) = t.rows.map fun row ↦ [rowText '│' t.columns row.texts] := by
    refine exists_mapM_eq fun row hrow ↦ ?_
    obtain ⟨hl, hr⟩ := hb row hrow
    obtain ⟨l, hrl, hflat⟩ := exists_rowLines '│' (hroom.2 _ (List.mem_map_of_mem hrow)) hl hr
    exact ⟨[l], hrl, by rw [List.map_singleton, hflat]⟩
  refine ⟨ys.flatten, ?_, ?_⟩
  · rw [bodyLines, hys]
    rfl
  · rw [List.map_flatten, hflat, ← List.flatMap_def, List.map_map, List.map_eq_flatMap]
    rfl

theorem FitsScreen.exists_headLines (h : t.FitsScreen) :
    ∃ ls, t.headLines = .ok ls ∧ ls.map List.flatten =
      [centred (t.columns.1 + t.columns.2 + 3) t.title, (rule '┏' '━' '┳' '┓' t.columns).flatten,
        rowText '┃' t.columns t.header, (rule '┡' '━' '╇' '┩' t.columns).flatten] := by
  have hroom := h.texts.hasRoom t.header List.mem_cons_self
  rw [← columns_eq h.texts] at hroom
  obtain ⟨l, hl, hflat⟩ : ∃ l, rowLines '┃' t.columns ⟨.plain t.header.left, .plain t.header.right⟩ = .ok [l] ∧
      l.flatten = rowText '┃' t.columns t.header := exists_rowLines '┃' hroom rfl rfl
  refine ⟨t.titleLine :: rule '┏' '━' '┳' '┓' t.columns :: [l] ++ [rule '┡' '━' '╇' '┩' t.columns], ?_, ?_⟩
  · rw [headLines, hl]
    rfl
  · simp only [titleLine, List.map_cons, List.map_nil, hflat, List.flatten_singleton, List.cons_append,
      List.nil_append]

/-- The lines of a table are those of its texts. -/
theorem FitsScreen.exists_lines (h : t.FitsScreen) (hb : t.IsUnbroken) :
    ∃ ls, t.lines = .ok ls ∧ ls.map List.flatten = pageLines t.title t.header (t.rows.map Row.texts) := by
  obtain ⟨head, hhead, hflat⟩ := h.exists_headLines
  obtain ⟨body, hbody, hflat'⟩ := h.exists_bodyLines hb
  refine ⟨head ++ body ++ [rule '└' '─' '┴' '┘' t.columns], ?_, ?_⟩
  · rw [lines, hhead, hbody]
    rfl
  · rw [List.map_append, List.map_append, List.map_singleton, hflat, hflat', columns_eq h.texts]
    rfl

theorem isNarrow_of_mem_rowText {bar : Char} (hbar : IsNarrow bar) {columns : Nat × Nat} {row : Row (List Char)}
    (h : row.HasRoom columns) : ∀ c ∈ rowText bar columns row, IsNarrow c := by
  have hcell : ∀ {column : Nat} {s : List Char}, (∀ c ∈ s, isPlain c = true) → ∀ c ∈ inCell column s, IsNarrow c :=
    fun hs c hc ↦ Text.isNarrow_of_isPlain (isPlain_of_mem_inCell hs _ c hc)
  rw [rowText, List.forall_mem_cons, List.forall_mem_append, List.forall_mem_cons, List.forall_mem_append,
    List.forall_mem_singleton]
  exact ⟨hbar, hcell h.left, hbar, hcell h.right, hbar⟩

theorem length_rowText (bar : Char) {columns : Nat × Nat} {row : Row (List Char)} (h : row.HasRoom columns) :
    (rowText bar columns row).length = columns.1 + columns.2 + 3 := by
  simp only [rowText, List.length_cons, List.length_append, List.length_nil, length_inCell h.leftRoom,
    length_inCell h.rightRoom]
  omega

theorem length_rule (start line cross stop : Char) (columns : Nat × Nat) :
    (rule start line cross stop columns).flatten.length = columns.1 + columns.2 + 3 := by
  simp only [rule, List.flatten_singleton, List.length_cons, List.length_append, List.length_replicate, List.length_nil]
  omega

/-- A line that is drawn on the screen as it is. -/
structure IsOnScreen (s : List Char) : Prop where
  narrow : ∀ c ∈ s, IsNarrow c
  length_le : s.length ≤ screenWidth

/-- Such a line is one line. -/
theorem IsOnScreen.newline_not_mem {s : List Char} (h : IsOnScreen s) : '\n' ∉ s := by
  intro hm
  have hn : ¬ IsNarrow '\n' := by decide +kernel
  exact hn (h.narrow _ hm)

theorem isOnScreen_centred {w : Nat} {s : List Char} (h : ∀ c ∈ s, isPlain c = true) (hw : w ≤ screenWidth)
    (hs : s.length ≤ screenWidth) : IsOnScreen (centred w s) := by
  constructor
  · rw [centred, List.forall_mem_append, List.forall_mem_append]
    have hblanks := fun n c hc ↦ Text.isNarrow_of_isPlain (Text.isPlain_of_mem_blanks n c hc)
    exact ⟨⟨hblanks _, fun c hc ↦ Text.isNarrow_of_isPlain (h c hc)⟩, hblanks _⟩
  · rw [centred, Text.width_of_isPlain h]
    simp only [List.length_append, Text.blanks, List.length_replicate]
    omega

theorem isOnScreen_rule {start line cross stop : Char} (h : IsNarrow start ∧ IsNarrow line ∧ IsNarrow cross ∧ IsNarrow stop)
    {columns : Nat × Nat} (hc : columns.1 + columns.2 ≤ room) : IsOnScreen (rule start line cross stop columns).flatten := by
  refine ⟨forall_mem_rule h columns, ?_⟩
  rw [length_rule, screenWidth]
  exact Nat.add_le_add_right hc 3

theorem isOnScreen_rowText {bar : Char} (hbar : IsNarrow bar) {columns : Nat × Nat} {row : Row (List Char)}
    (h : row.HasRoom columns) (hc : columns.1 + columns.2 ≤ room) : IsOnScreen (rowText bar columns row) := by
  refine ⟨isNarrow_of_mem_rowText hbar h, ?_⟩
  rw [length_rowText bar h, screenWidth]
  exact Nat.add_le_add_right hc 3

/-- Each line of a table that fits stays on the screen. -/
theorem Fit.isOnScreen {title : List Char} {header : Row (List Char)} {rows : List (Row (List Char))}
    (h : Fit (header :: rows)) (ht : ∀ c ∈ title, isPlain c = true) (htl : title.length ≤ screenWidth) :
    ∀ s ∈ pageLines title header rows, IsOnScreen s := by
  have hc := h.widths_le
  have hrow := h.hasRoom
  rw [List.forall_mem_cons] at hrow
  have hbody : ∀ s ∈ rows.map (rowText '│' (widths (header :: rows))), IsOnScreen s := by
    rw [List.forall_mem_map]
    exact fun row hm ↦ isOnScreen_rowText (by decide +kernel) (hrow.2 row hm) hc
  rw [pageLines, List.forall_mem_append, List.forall_mem_append, List.forall_mem_singleton, List.forall_mem_cons,
    List.forall_mem_cons, List.forall_mem_cons, List.forall_mem_singleton]
  refine ⟨⟨⟨?_, ?_, ?_, ?_⟩, hbody⟩, ?_⟩
  · exact isOnScreen_centred ht (Nat.add_le_add_right hc 3) htl
  · exact isOnScreen_rule (by decide +kernel) hc
  · exact isOnScreen_rowText (by decide +kernel) hrow.1 hc
  · exact isOnScreen_rule (by decide +kernel) hc
  · exact isOnScreen_rule (by decide +kernel) hc

/-- A table that fits is drawn as the page of its texts, whatever its styles are if none of them is broken. -/
theorem FitsScreen.text_eq (h : t.FitsScreen) (hb : t.IsUnbroken) :
    t.text = .ok (unlines (pageLines t.title t.header (t.rows.map Row.texts))) := by
  obtain ⟨ls, hls, hflat⟩ := h.exists_lines hb
  have hscreen := h.texts.isOnScreen h.title h.titleRoom
  rw [← hflat, List.forall_mem_map] at hscreen
  obtain ⟨ls', hls', hid⟩ : ∃ ls', ls.mapM (Line.atMost screenWidth) = .ok ls' ∧ ls'.map id = ls.map id := by
    refine exists_mapM_eq fun l hl ↦ ⟨l, if_pos ?_, rfl⟩
    rw [Line.width_of_isNarrow (hscreen l hl).narrow]
    exact (hscreen l hl).length_le
  rw [List.map_id, List.map_id] at hid
  rw [text, hls]
  change ((ls.mapM (Line.atMost screenWidth)).mapError Fault.crop >>= fun lines : List Line ↦
    .ok (lines.flatMap fun l ↦ l.flatten ++ ['\n'])) = _
  rw [hls', hid, unlines, ← hflat, List.flatMap_map]
  rfl

/-- A table that fits and is drawn has no broken style. -/
theorem FitsScreen.isUnbroken (h : t.FitsScreen) {s : List Char} (ht : t.text = .ok s) : t.IsUnbroken := by
  have hroom := h.texts.hasRoom
  rw [← columns_eq h.texts, List.forall_mem_cons, List.forall_mem_map] at hroom
  obtain ⟨ls, hls, -⟩ := exists_ok_of_bind ht
  obtain ⟨head, -, hls⟩ := exists_ok_of_bind hls
  obtain ⟨body, hbody, -⟩ := exists_ok_of_bind hls
  obtain ⟨ys, hys, -⟩ := exists_ok_of_bind hbody
  intro row hrow
  obtain ⟨lines, -, hlines⟩ := exists_ok_of_mapM hys row hrow
  exact not_isBroken_of_rowLines (hroom.2 row hrow) hlines

end

/-! ## Reading a table -/

/-- The lines of the rows in the text of a table: those between the four lines of its head and the last one. -/
def bodyOf (text : List Char) : List (List Char) := ((Text.splitOn '\n' text).drop 4).dropLast.dropLast

theorem splitOn_unlines {lines : List (List Char)} (h : ∀ l ∈ lines, '\n' ∉ l) :
    Text.splitOn '\n' (unlines lines) = lines ++ [[]] := by
  induction lines with
  | nil => rfl
  | cons l lines ih =>
    rw [List.forall_mem_cons] at h
    have hcons : unlines (l :: lines) = l ++ '\n' :: unlines lines := by
      rw [unlines, List.flatMap_cons, List.append_assoc]
      rfl
    rw [hcons, Text.splitOn_append_cons h.1, ih h.2, List.cons_append]

/-- The rows are read off the page of a table. -/
theorem bodyOf_page {title : List Char} {header : Row (List Char)} {rows : List (Row (List Char))}
    (h : Fit (header :: rows)) (ht : ∀ c ∈ title, isPlain c = true) (htl : title.length ≤ screenWidth) :
    bodyOf (unlines (pageLines title header rows)) = rows.map (rowText '│' (widths (header :: rows))) := by
  have hlines := fun s hs ↦ (h.isOnScreen ht htl s hs).newline_not_mem
  rw [bodyOf, splitOn_unlines hlines, pageLines]
  simp

end Table

end ClusterMatrix

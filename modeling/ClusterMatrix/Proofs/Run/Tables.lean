import Mathlib.Data.List.Infix
import ClusterMatrix.Proofs.Catalog.Selection
import ClusterMatrix.Proofs.Markup.Unmarked
import ClusterMatrix.Proofs.Run.Output
import ClusterMatrix.Proofs.Table.Page
import ClusterMatrix.Run.Job

/-!
# What the tables show

The cells of a table are names and versions from a catalog, and they are read as markup. Where nothing in them is markup,
and the columns fit the screen, each line of the table shows the texts of its row as they are. A cell that holds markup
loses some of it, or keeps the table from being drawn.
-/

namespace ClusterMatrix.Run

open Markup (IsUnmarked marks)
open Table (Fit FitsScreen bodyOf rowText widths)

/-! ## Rows of texts -/

/-- The characters of a row. -/
def chars (row : Table.Row String) : Table.Row (List Char) := ⟨row.left.toList, row.right.toList⟩

/-- The version of a distribution, where both are texts. -/
def selectionOf (row : Table.Row String) : Catalog.Selection := ⟨.str row.left, .str row.right⟩

/-- An entry with a name and versions that are texts. The row of the entry joins the versions. -/
inductive HasRow (e : Json) : Table.Row String → Prop where
  | mk {name : String} {versions : List String} (hn : e.get? "short_name" = some (.str name))
      (hv : e.get? "versions" = some (.arr (versions.map .str))) : HasRow e ⟨name, String.intercalate ", " versions⟩

/-- A table of rows of texts, with its headings: one of selections, or one of a catalog. -/
inductive Tabulates : Except Unhandled Table → Table.Row String → List (Table.Row String) → Prop where
  | selections (rows : List (Table.Row String)) :
      Tabulates (selectionTable (rows.map selectionOf)) ⟨"Distribution", "Version"⟩ rows
  | catalog {catalog : List Json} {rows : List (Table.Row String)} (h : List.Forall₂ HasRow catalog rows) :
      Tabulates (catalogTable catalog) ⟨"Distribution", "Versions"⟩ rows

theorem join_map_str (versions : List String) :
    joined.join (versions.map .str) = .ok (String.intercalate ", " versions).toList := by
  induction versions with
  | nil => rfl
  | cons s versions ih =>
    cases versions with
    | nil =>
      rw [String.intercalate_singleton]
      rfl
    | cons t versions =>
      rw [List.map_cons] at ih
      rw [List.map_cons, List.map_cons, joined.join, ih, String.intercalate_cons_cons, String.toList_append,
        String.toList_append, List.append_assoc]
      · rfl
      · exact fun h ↦ List.cons_ne_nil _ _ h

theorem catalogRow_of_hasRow {e : Json} {row : Table.Row String} (h : HasRow e row) : catalogRow e = .ok (chars row) := by
  obtain ⟨hn, hv⟩ := h
  rw [catalogRow, Catalog.versions, Catalog.field_of_get? hn, Catalog.field_of_get? hv]
  dsimp only
  rw [joined, Catalog.items]
  dsimp only
  rw [join_map_str]
  rfl

theorem tableOf_eq {A : Type} {row : A → Except Unhandled (Table.Row (List Char))} {items : List A}
    {rows : List (Table.Row (List Char))} (h : items.mapM row = .ok rows) (title left right : String) :
    tableOf title left right row items =
      (shownRows rows).map fun shown ↦ ⟨title.toList, ⟨left.toList, right.toList⟩, shown⟩ := by
  rw [tableOf, h]
  change (shownRows rows >>= fun shown ↦ Except.ok _) = _
  cases shownRows rows <;> rfl

/-- A table of rows has a title that fits, and its cells are what is shown of the texts. -/
theorem Tabulates.exists_title {table : Except Unhandled Table} {header : Table.Row String}
    {rows : List (Table.Row String)} (h : Tabulates table header rows) :
    ∃ title : List Char, (∀ c ∈ title, Text.isPlain c = true) ∧ title.length ≤ Table.screenWidth ∧
      table = (shownRows (rows.map chars)).map fun shown ↦ ⟨title, chars header, shown⟩ := by
  cases h with
  | selections rows =>
    refine ⟨"Versions to test".toList, List.all_eq_true.1 (by decide), by decide, tableOf_eq (mapM_eq_ok_iff.2 ?_) _ _ _⟩
    rw [List.forall₂_map_left_iff, List.forall₂_map_right_iff]
    exact List.forall₂_same.2 fun _ _ ↦ rfl
  | catalog h =>
    refine ⟨"Cluster versions".toList, List.all_eq_true.1 (by decide), by decide, tableOf_eq (mapM_eq_ok_iff.2 ?_) _ _ _⟩
    rw [List.forall₂_map_right_iff]
    exact h.imp fun _ _ ↦ catalogRow_of_hasRow

/-! ## Cells that are shown as they are -/

/-- Nothing in the cells is markup. -/
def AreUnmarked (rows : List (Table.Row String)) : Prop :=
  ∀ row ∈ rows, IsUnmarked row.left.toList ∧ IsUnmarked row.right.toList

/-- The texts of the table are plain, and its columns fit the screen. -/
def FitsUnder (header : Table.Row String) (rows : List (Table.Row String)) : Prop := Fit ((header :: rows).map chars)

/-- The lines of the rows hold their texts as they are. -/
def ShowsRows (header : Table.Row String) (rows : List (Table.Row String)) (text : List Char) : Prop :=
  bodyOf text = rows.map fun row ↦ rowText '│' (widths ((header :: rows).map chars)) (chars row)

/-- The table is drawn, and its lines hold the texts of the rows as they are. -/
def DrawsRows (table : Except Unhandled Table) (header : Table.Row String) (rows : List (Table.Row String)) : Prop :=
  ∃ text, drawn table = .ok text ∧ ShowsRows header rows text

variable {table : Except Unhandled Table} {header : Table.Row String} {rows : List (Table.Row String)}
  {raws : List (Table.Row (List Char))} {cells : List (Table.Row Text.Spanned)} {text : List Char}

theorem forall₂_zipWith_mk {A B : Type} {p q : A → B → Prop} {as : List A} {lefts rights : List B}
    (hl : List.Forall₂ p as lefts) (hr : List.Forall₂ q as rights) :
    List.Forall₂ (fun a row ↦ p a row.left ∧ q a row.right) as (List.zipWith Table.Row.mk lefts rights) := by
  induction hl generalizing rights with
  | nil => exact .nil
  | cons hp _ ih =>
    cases hr with
    | cons hq hr => exact .cons ⟨hp, hq⟩ (ih hr)

/-- The cells of each row are what is shown of its texts. -/
theorem shownRows_eq_ok_iff : shownRows raws = .ok cells ↔
    List.Forall₂ (fun raw cell ↦ shown raw.left = .ok cell.left ∧ shown raw.right = .ok cell.right) raws cells := by
  constructor
  · intro h
    obtain ⟨lefts, hlefts, h⟩ := exists_ok_of_bind h
    obtain ⟨rights, hrights, h⟩ := exists_ok_of_bind h
    cases h
    exact forall₂_zipWith_mk (mapM_eq_ok_iff.1 hlefts) (mapM_eq_ok_iff.1 hrights)
  · intro h
    have hlefts : raws.mapM (shown ·.left) = .ok (cells.map (·.left)) :=
      mapM_eq_ok_iff.2 (List.forall₂_map_right_iff.2 (h.imp fun _ _ ↦ And.left))
    have hrights : raws.mapM (shown ·.right) = .ok (cells.map (·.right)) :=
      mapM_eq_ok_iff.2 (List.forall₂_map_right_iff.2 (h.imp fun _ _ ↦ And.right))
    have hzip : List.zipWith Table.Row.mk (cells.map (·.left)) (cells.map (·.right)) = cells := by
      rw [List.zipWith_map, List.zipWith_self]
      exact List.map_id cells
    rw [shownRows, hlefts, hrights]
    exact congrArg Except.ok hzip

theorem isCursorControl_of_isPlain {c : Char} (h : Text.isPlain c = true) : Markup.isCursorControl c = false := by
  simp [Text.isPlain, Markup.isCursorControl] at h ⊢
  omega

theorem shown_of_isUnmarked {s : List Char} (hp : ∀ c ∈ s, Text.isPlain c = true) (h : IsUnmarked s) :
    shown s = .ok (.plain s) := by
  rw [shown, Markup.shown_of_isUnmarked h fun c hc ↦ isCursorControl_of_isPlain (hp c hc)]
  rfl

/-- The cells of a row that are shown as they are. -/
def plainCells (row : Table.Row String) : Table.Row Text.Spanned := ⟨.plain row.left.toList, .plain row.right.toList⟩

theorem texts_plainCells (rows : List (Table.Row String)) :
    (rows.map plainCells).map Table.Row.texts = rows.map chars := List.map_map

/-- Without markup the cells hold the texts, without styles. -/
theorem shownRows_of_areUnmarked (hp : FitsUnder header rows) (h : AreUnmarked rows) :
    shownRows (rows.map chars) = .ok (rows.map plainCells) := by
  have hleft := hp.left
  have hright := hp.right
  rw [List.map_cons, List.forall_mem_cons, List.forall_mem_map] at hleft hright
  rw [shownRows_eq_ok_iff, List.forall₂_map_left_iff, List.forall₂_map_right_iff, List.forall₂_same]
  intro row hrow
  obtain ⟨hl, hr⟩ := h row hrow
  exact ⟨shown_of_isUnmarked (hleft.2 row hrow) hl, shown_of_isUnmarked (hright.2 row hrow) hr⟩

/-- A table of plain texts without markup is drawn with its texts as they are. -/
theorem drawsRows_of_areUnmarked (ht : Tabulates table header rows) (hp : FitsUnder header rows) (h : AreUnmarked rows) :
    DrawsRows table header rows := by
  obtain ⟨title, htp, htl, htable⟩ := ht.exists_title
  rw [shownRows_of_areUnmarked hp h] at htable
  have hfits : FitsScreen ⟨title, chars header, rows.map plainCells⟩ := by
    refine ⟨htp, htl, ?_⟩
    rw [texts_plainCells]
    exact hp
  have hunbroken : Table.IsUnbroken ⟨title, chars header, rows.map plainCells⟩ := by
    rw [Table.IsUnbroken, List.forall_mem_map]
    exact fun _ _ ↦ ⟨rfl, rfl⟩
  have htext := hfits.text_eq hunbroken
  rw [texts_plainCells] at htext
  refine ⟨_, ?_, (Table.bodyOf_page hp htp htl).trans ?_⟩
  · rw [htable]
    exact congrArg (Except.mapError Unhandled.table) htext
  · rw [List.map_map]
    rfl

theorem marks_inCell (column : Nat) (s : List Char) : marks (Table.inCell column s) = marks s := by
  have hblank : marks [' '] = 0 := rfl
  have hblanks : ∀ n, marks (Text.blanks n) = 0 := fun n ↦ List.countP_eq_zero.2 (Text.forall_mem_blanks (by decide) n)
  rw [Table.inCell, Markup.marks_cons, Markup.marks_append, Markup.marks_append, hblank, hblanks]
  omega

/-- The opening brackets and backslashes of a line are those of its texts. -/
theorem marks_rowText (columns : Nat × Nat) (row : Table.Row (List Char)) :
    marks (rowText '│' columns row) = marks row.left + marks row.right := by
  have hbar : marks ['│'] = 0 := rfl
  rw [rowText, Markup.marks_cons, Markup.marks_append, Markup.marks_cons '│' (_ ++ _), Markup.marks_append, marks_inCell,
    marks_inCell, hbar]
  omega

/-- A cell of a row shows its texts in order, and loses an opening bracket or a backslash of a text with markup. -/
structure Sheds (row : Table.Row String) (cell : Table.Row Text.Spanned) : Prop where
  left : cell.left.text.Sublist row.left.toList
  right : cell.right.text.Sublist row.right.toList
  isUnmarked : marks cell.left.text + marks cell.right.text = marks row.left.toList + marks row.right.toList →
    IsUnmarked row.left.toList ∧ IsUnmarked row.right.toList

/-- A fault that is passed on leaves the results alone. -/
theorem eq_ok_of_mapError {E F A : Type} {x : Except E A} {g : E → F} {a : A} (h : x.mapError g = .ok a) : x = .ok a := by
  cases x with
  | error e => cases h
  | ok b =>
    cases h
    rfl

theorem sheds_of_shown {row : Table.Row String} {cell : Table.Row Text.Spanned}
    (hc : ':' ∉ row.left.toList ∧ ':' ∉ row.right.toList)
    (h : shown row.left.toList = .ok cell.left ∧ shown row.right.toList = .ok cell.right) : Sheds row cell := by
  obtain ⟨hl, hlu⟩ := Markup.sublist_of_shown hc.1 (eq_ok_of_mapError h.1)
  obtain ⟨hr, hru⟩ := Markup.sublist_of_shown hc.2 (eq_ok_of_mapError h.2)
  have hleft := Markup.marks_le_of_sublist hl
  have hright := Markup.marks_le_of_sublist hr
  refine ⟨hl, hr, fun hm ↦ ⟨hlu ?_, hru ?_⟩⟩ <;> omega

/-- Rows whose lines are alike have as many opening brackets and backslashes, row by row. -/
theorem isUnmarked_of_sheds (hs : List.Forall₂ Sheds rows cells) {columns columns' : Nat × Nat}
    (h : (cells.map Table.Row.texts).map (rowText '│' columns') = rows.map fun row ↦ rowText '│' columns (chars row)) :
    AreUnmarked rows := by
  induction hs with
  | nil => exact fun _ hrow ↦ absurd hrow List.not_mem_nil
  | cons hshed _ ih =>
    rw [List.map_cons, List.map_cons, List.map_cons, List.cons.injEq] at h
    have hmarks := congrArg marks h.1
    rw [marks_rowText, marks_rowText] at hmarks
    rw [AreUnmarked, List.forall_mem_cons]
    exact ⟨hshed.isUnmarked hmarks, ih h.2⟩

/-- Where the texts of the rows fit, so does what is left of them. -/
theorem fitsScreen_of_sheds {title : List Char} (htp : ∀ c ∈ title, Text.isPlain c = true)
    (htl : title.length ≤ Table.screenWidth) (hp : FitsUnder header rows) (hs : List.Forall₂ Sheds rows cells) :
    FitsScreen ⟨title, chars header, cells⟩ := by
  refine ⟨htp, htl, hp.of_sublist ?_⟩
  rw [List.forall_mem_cons, List.forall_mem_map]
  refine ⟨⟨chars header, List.mem_cons_self, List.Sublist.refl _, List.Sublist.refl _⟩, fun cell hcell ↦ ?_⟩
  obtain ⟨row, hrow, hshed⟩ := Catalog.exists_mem_of_forall₂ hs.flip cell hcell
  exact ⟨chars row, List.mem_cons_of_mem _ (List.mem_map_of_mem hrow), hshed.left, hshed.right⟩

/-- A table that is drawn has cells to show. -/
theorem exists_cells_of_drawn {title : List Char}
    (htable : table = (shownRows (rows.map chars)).map fun shown ↦ ⟨title, chars header, shown⟩)
    (h : drawn table = .ok text) :
    ∃ cells, shownRows (rows.map chars) = .ok cells ∧ Table.text ⟨title, chars header, cells⟩ = .ok text := by
  obtain ⟨t, hok, htext⟩ := exists_ok_of_bind h
  rw [hok] at htable
  cases hcells : shownRows (rows.map chars) with
  | error u =>
    rw [hcells] at htable
    cases htable
  | ok cells =>
    rw [hcells] at htable
    cases htable
    exact ⟨cells, rfl, eq_ok_of_mapError htext⟩

/-- Of rows that are shown as they are, no cell has markup, if no emoji is named in any of them. -/
theorem areUnmarked_of_drawsRows (ht : Tabulates table header rows) (hp : FitsUnder header rows)
    (hc : ∀ row ∈ rows, ':' ∉ row.left.toList ∧ ':' ∉ row.right.toList) (h : DrawsRows table header rows) :
    AreUnmarked rows := by
  obtain ⟨title, htp, htl, htable⟩ := ht.exists_title
  obtain ⟨text, hdrawn, hshows⟩ := h
  obtain ⟨cells, hcells, htext⟩ := exists_cells_of_drawn htable hdrawn
  rw [shownRows_eq_ok_iff, List.forall₂_map_left_iff] at hcells
  have hsheds : List.Forall₂ Sheds rows cells :=
    ((List.forall₂_and_left _ _).2 ⟨hc, hcells⟩).imp fun _ _ h ↦ sheds_of_shown h.1 h.2
  have hfits := fitsScreen_of_sheds htp htl hp hsheds
  rw [hfits.text_eq (hfits.isUnbroken htext), Except.ok.injEq] at htext
  rw [ShowsRows, ← htext, Table.bodyOf_page hfits.texts htp htl] at hshows
  exact isUnmarked_of_sheds hsheds hshows

/-! ## Runs that print a table -/

/-- The job comes to a table that it prints behind what is written already. -/
inductive ComesTo (env : Environment) (network : Http.Network) (disk : Workflow.Disk) (id : String) :
    Job → Except Unhandled Table → List Char → Prop where
  | matrix {options : Options} {verbose : Bool} {selections : List Catalog.Selection} {disk' : Workflow.Disk}
      {written : List Char} (hf : options.format = .table)
      (hs : (Matrix.choose options verbose env network).result = .ok selections)
      (hp : Matrix.publish selections id env disk = .ok (disk', written)) :
      ComesTo env network disk id (.matrix options verbose) (selectionTable selections) written
  | latest {options : Options} {catalog : List Json} {selections : List Catalog.Selection}
      (hf : options.format = .table) (hc : (Versions.listed options env network).result = .ok catalog)
      (hs : (Versions.latest catalog).result = .ok selections) :
      ComesTo env network disk id (.versions options true) (selectionTable selections) []
  | catalog {options : Options} {catalog : List Json} (hf : options.format = .table)
      (hc : (Versions.listed options env network).result = .ok catalog) :
      ComesTo env network disk id (.versions options false) (catalogTable catalog) []

variable {env : Environment} {network : Http.Network} {disk : Workflow.Disk} {id : String} {job : Job}
  {written : List Char}

theorem Versions.text_latest {options : Options} {catalog : List Json} {selections : List Catalog.Selection}
    (hf : options.format = .table) (hc : (Versions.listed options env network).result = .ok catalog)
    (hs : (Versions.latest catalog).result = .ok selections) :
    (Versions.text options true env network).result =
      ((drawn (selectionTable selections)).map Text.codesOf).mapError .unhandled := by
  rw [Versions.text, Stage.bind_of_ok hc, if_pos rfl, Versions.latestText, Stage.bind_of_ok hs, hf]
  cases drawn (selectionTable selections) <;> rfl

theorem Versions.text_catalog {options : Options} {catalog : List Json} (hf : options.format = .table)
    (hc : (Versions.listed options env network).result = .ok catalog) :
    (Versions.text options false env network).result =
      ((drawn (catalogTable catalog)).map Text.codesOf).mapError .unhandled := by
  rw [Versions.text, Stage.bind_of_ok hc, if_neg Bool.false_ne_true, hf, Versions.catalogText]
  cases drawn (catalogTable catalog) <;> rfl

/-- A table that is drawn ends the run well. -/
theorem ComesTo.of_drawn (h : ComesTo env network disk id job table written) (hd : drawn table = .ok text) :
    (job.run env network disk id).exitCode = 0 ∧ (job.run env network disk id).unhandled = none ∧
      (job.run env network disk id).printed = Text.codesOf (written ++ text) := by
  cases h with
  | matrix hf hs hp =>
    rw [Job.run, Matrix.run]
    simp only [hs, hp, hf, Matrix.printed, hd, and_self]
  | latest hf hc hs =>
    rw [Job.run, Versions.run]
    simp only [Versions.text_latest hf hc hs, hd]
    exact ⟨rfl, rfl, rfl⟩
  | catalog hf hc =>
    rw [Job.run, Versions.run]
    simp only [Versions.text_catalog hf hc, hd]
    exact ⟨rfl, rfl, rfl⟩

/-- A table that cannot be drawn ends the run with a fault. -/
theorem ComesTo.of_not_drawn (h : ComesTo env network disk id job table written) {u : Unhandled}
    (hd : drawn table = .error u) :
    (job.run env network disk id).exitCode = 1 ∧ (job.run env network disk id).unhandled = some u := by
  cases h with
  | matrix hf hs hp =>
    rw [Job.run, Matrix.run]
    simp only [hs, hp, hf, Matrix.printed, hd, and_self]
  | latest hf hc hs =>
    rw [Job.run, Versions.run]
    simp only [Versions.text_latest hf hc hs, hd]
    exact ⟨rfl, rfl⟩
  | catalog hf hc =>
    rw [Job.run, Versions.run]
    simp only [Versions.text_catalog hf hc, hd]
    exact ⟨rfl, rfl⟩

/-- The run ends well, and prints a table whose lines hold the texts of the rows as they are. -/
structure Outcome.PrintsRows (o : Outcome) (written : List Char) (header : Table.Row String)
    (rows : List (Table.Row String)) : Prop where
  exitCode : o.exitCode = 0
  unhandled : o.unhandled = none
  stdout : ∃ text, o.stdout = written ++ text ∧ ShowsRows header rows text

theorem ComesTo.printsRows_iff (h : ComesTo env network disk id job table written) :
    (job.run env network disk id).PrintsRows written header rows ↔ DrawsRows table header rows := by
  constructor
  · rintro ⟨hexit, -, text, hstdout, hshows⟩
    cases hd : drawn table with
    | error u =>
      rw [(h.of_not_drawn hd).1] at hexit
      cases hexit
    | ok text' =>
      rw [Outcome.stdout_of_printed (h.of_drawn hd).2.2, List.append_cancel_left_eq] at hstdout
      exact ⟨text', hd, hstdout ▸ hshows⟩
  · rintro ⟨text, hd, hshows⟩
    obtain ⟨hexit, hnone, hprinted⟩ := h.of_drawn hd
    exact ⟨hexit, hnone, text, Outcome.stdout_of_printed hprinted, hshows⟩

/-- What a table tells of its rows. If nothing in them is markup, it is drawn with their texts as they are. Without
colons, this is the only case. So it is for each run that comes to the table: the texts are printed, or the run does not
end well or prints something else. -/
structure TellsRows (table : Except Unhandled Table) (header : Table.Row String) (rows : List (Table.Row String)) :
    Prop where
  draws : AreUnmarked rows → DrawsRows table header rows
  draws_iff : (∀ row ∈ rows, ':' ∉ row.left.toList ∧ ':' ∉ row.right.toList) →
    (DrawsRows table header rows ↔ AreUnmarked rows)
  prints_iff : ∀ (env : Environment) (network : Http.Network) (disk : Workflow.Disk) (id : String) (job : Job)
    (written : List Char), ComesTo env network disk id job table written →
      ((job.run env network disk id).PrintsRows written header rows ↔ DrawsRows table header rows)

theorem tellsRows (ht : Tabulates table header rows) (hp : FitsUnder header rows) : TellsRows table header rows := by
  constructor
  · exact drawsRows_of_areUnmarked ht hp
  · intro hc
    exact ⟨areUnmarked_of_drawsRows ht hp hc, drawsRows_of_areUnmarked ht hp⟩
  · intro env network disk id job written h
    exact h.printsRows_iff

/-- The headings of a table of selections. -/
def selectionHeadings : Table.Row String := ⟨"Distribution", "Version"⟩

/-- A number in brackets is no tag. -/
def numberedRow : Table.Row String := ⟨"k3s", "1.28.0[1]"⟩

theorem isUnmarked_numbered : IsUnmarked "1.28.0[1]".toList := by
  have hnone : ∀ t ∈ "1.28.0[1]".toList.tails, Markup.tagAt? t = none := by decide
  refine ⟨fun t ht ↦ hnone t ((List.mem_tails _ _).2 ht), by decide, Markup.withEmoji_of_not_mem (by decide)⟩

theorem fitsUnder_numberedRow : FitsUnder selectionHeadings [numberedRow] := .of_isPlain (by decide) (by decide)

theorem tellsRows_numberedRow :
    FitsUnder selectionHeadings [numberedRow] ∧ AreUnmarked [numberedRow] ∧
      DrawsRows (selectionTable ([numberedRow].map selectionOf)) selectionHeadings [numberedRow] := by
  have hunmarked : AreUnmarked [numberedRow] := by
    rw [AreUnmarked, List.forall_mem_singleton]
    exact ⟨Markup.isUnmarked_of_not_mem (by decide) (by decide), isUnmarked_numbered⟩
  exact ⟨fitsUnder_numberedRow, hunmarked, (tellsRows (.selections _) fitsUnder_numberedRow).draws hunmarked⟩

/-! ## A suffix in brackets -/

/-- A suffix that is taken for a tag. -/
def suffixedRow : Table.Row String := ⟨"k3s", "1.28.0[beta]"⟩

def suffixedNetwork : Http.Network := versionNetwork "[\"1.28.0[beta]\"]"

theorem fitsUnder_suffixedRow : FitsUnder selectionHeadings [suffixedRow] := .of_isPlain (by decide) (by decide)

/-- The suffix is lost in the table. -/
theorem not_drawsRows_suffixedRow :
    ¬ DrawsRows (selectionTable ([suffixedRow].map selectionOf)) selectionHeadings [suffixedRow] := by
  intro h
  have hunmarked := areUnmarked_of_drawsRows (.selections _) fitsUnder_suffixedRow (by decide) h
  have hsuffix := (hunmarked suffixedRow List.mem_cons_self).2.noTag "[beta]".toList ((List.mem_tails _ _).1 (by decide))
  exact absurd hsuffix (by decide)

theorem comesTo_suffixed : ∃ job, Job.ofArguments? Matrix.tableArguments = some job ∧
    ComesTo ⟨[]⟩ suffixedNetwork stepDisk "1" job (selectionTable ([suffixedRow].map selectionOf)) [] := by
  refine ⟨_, rfl, .matrix rfl ?_ rfl⟩
  decide +kernel

/-- A version need not be printed as it is, though its name and itself are visible ASCII without blanks and the table
has room for both. -/
theorem not_printsRows_suffixed :
    FitsUnder selectionHeadings [suffixedRow] ∧
      (∀ row ∈ [suffixedRow], Text.trim row.left.toList = row.left.toList ∧ Text.trim row.right.toList = row.right.toList) ∧
        ¬ (ClusterMatrix.run Matrix.tableArguments ⟨[]⟩ suffixedNetwork stepDisk "1").PrintsRows [] selectionHeadings
          [suffixedRow] := by
  obtain ⟨job, hjob, hcomes⟩ := comesTo_suffixed
  refine ⟨fitsUnder_suffixedRow, by decide, fun h ↦ not_drawsRows_suffixedRow (hcomes.printsRows_iff.1 ?_)⟩
  rwa [ClusterMatrix.run, hjob] at h

/-- What is drawn is the table of another version. -/
example : drawn (selectionTable [selectionOf suffixedRow]) = drawn (selectionTable [selectionOf ⟨"k3s", "1.28.0"⟩]) := by
  decide +kernel

end ClusterMatrix.Run

import ClusterMatrix.Catalog.Selection
import ClusterMatrix.Run.Stage
import ClusterMatrix.Table.Basic

/-!
# Tables of selections and of catalogs

A cell shows a text, which is markup, or nothing for null; no other value can be shown. The rows are made
before any of the markup is read, and the markup is read column by column. A half of a character is drawn as a
replacement character.
-/

namespace ClusterMatrix.Run

def cell : Json → Except Unhandled (List Char)
  | .null => .ok []
  | v => match v.text? with
    | some s => .ok s
    | none => .error .notText

/-- The texts that a value holds, with a comma and a blank between them. -/
def joined (held : Json) : Except Unhandled (List Char) :=
  match Catalog.items held with
  | .error f => .error (.catalog f)
  | .ok vs => join vs
where
  join : List Json → Except Unhandled (List Char)
    | [] => .ok []
    | [v] => match v.text? with
      | some s => .ok s
      | none => .error (.catalog .wrongKind)
    | v :: vs => match v.text?, join vs with
      | none, _ => .error (.catalog .wrongKind)
      | some _, .error u => .error u
      | some s, .ok t => .ok (s ++ ',' :: ' ' :: t)

def selectionRow (s : Catalog.Selection) : Except Unhandled (Table.Row (List Char)) :=
  match cell s.distribution, cell s.version with
  | .ok left, .ok right => .ok ⟨left, right⟩
  | .error u, _ => .error u
  | _, .error u => .error u

def catalogRow (entry : Json) : Except Unhandled (Table.Row (List Char)) :=
  match Catalog.field "short_name" entry, Catalog.versions entry with
  | .error f, _ => .error (.catalog f)
  | _, .error f => .error (.catalog f)
  | .ok name, .ok held => match joined held, cell name with
    | .ok right, .ok left => .ok ⟨left, right⟩
    | .error u, _ => .error u
    | _, .error u => .error u

def shown (s : List Char) : Except Unhandled Text.Spanned := (Markup.shown s).mapError .markup

/-- What the cells of the rows show. -/
def shownRows (rows : List (Table.Row (List Char))) : Except Unhandled (List (Table.Row Text.Spanned)) := do
  let lefts ← rows.mapM (shown ·.left)
  let rights ← rows.mapM (shown ·.right)
  return List.zipWith .mk lefts rights

/-- A table of some items under a title and two headings. -/
def tableOf {A : Type} (title left right : String) (row : A → Except Unhandled (Table.Row (List Char)))
    (items : List A) : Except Unhandled Table := do
  let rows ← items.mapM row
  return ⟨title.toList, ⟨left.toList, right.toList⟩, ← shownRows rows⟩

def selectionTable (selections : List Catalog.Selection) : Except Unhandled Table :=
  tableOf "Versions to test" "Distribution" "Version" selectionRow selections

def catalogTable (catalog : List Json) : Except Unhandled Table :=
  tableOf "Cluster versions" "Distribution" "Versions" catalogRow catalog

def drawn (table : Except Unhandled Table) : Except Unhandled (List Char) := do
  (← table).text.mapError .table

end ClusterMatrix.Run

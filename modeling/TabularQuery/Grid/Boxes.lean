import TabularQuery.Grid
import TabularQuery.Text.Width

/-! The printer of the program. Cells stand between edges, borders above and below them. A cell is cut into lines at line
feeds, and a record takes as many lines as its tallest cell. -/

namespace TabularQuery.Grid

namespace Batch

def height (batch : Batch) : Nat := (batch.columns.headD []).length

/-- Columns that go together: one for each heading, equally long, with missing values only where the heading allows them. -/
structure Regular (batch : Batch) : Prop where
  nonempty : batch.columns ≠ []
  matched : batch.headings.length = batch.columns.length
  even : ∀ column ∈ batch.columns, column.length = batch.height
  complete : ∀ pair ∈ batch.headings.zip batch.columns, pair.1.nullable = true ∨ none ∉ pair.2

instance (batch : Batch) : Decidable batch.Regular :=
  decidable_of_decidable_of_iff (p := batch.columns ≠ [] ∧ batch.headings.length = batch.columns.length ∧
      (∀ column ∈ batch.columns, column.length = batch.height) ∧
      ∀ pair ∈ batch.headings.zip batch.columns, pair.1.nullable = true ∨ none ∉ pair.2)
    ⟨fun ⟨nonempty, matched, even, complete⟩ => ⟨nonempty, matched, even, complete⟩,
      fun ⟨nonempty, matched, even, complete⟩ => ⟨nonempty, matched, even, complete⟩⟩

def titles (batch : Batch) : Row := batch.headings.map Heading.title

def recordsOf : Nat → List (List (Option String)) → List Row
  | 0, _ => []
  | count + 1, columns =>
    columns.map (fun column => column.head?.join.getD "") :: recordsOf count (columns.map List.tail)

def records (batch : Batch) : List Row := recordsOf batch.height batch.columns

end Batch

/-- The text between line feeds; there is always at least one line. -/
def lines (text : List Char) : List (List Char) :=
  text.foldr (fun c lines =>
    if c = '\n' then [] :: lines
    else match lines with
      | [] => [[c]]
      | line :: rest => (c :: line) :: rest) [[]]

def cells (columns : Nat) (record : Row) : List (List (List Char)) :=
  (List.range columns).map fun index => lines (Row.field record index).toList

/-- A column takes the width of its widest line, and never less than one. -/
def columnWidth (width : List Char → Nat) (column : List (List (List Char))) : Nat :=
  ((column.flatten).map width).foldl max 1

def widths (width : List Char → Nat) (columns : Nat) (records : List (List (List (List Char)))) :
    List Nat :=
  (List.range columns).map fun index =>
    columnWidth width (records.map fun record => record.getD index [])

def border (widths : List Nat) : List Char :=
  '+' :: widths.flatMap fun width => List.replicate (width + 2) '-' ++ ['+']

def lineText (width : List Char → Nat) (widths : List Nat) (line : List (List Char)) : List Char :=
  '|' :: (line.zip widths).flatMap fun (text, columnWidth) =>
    ' ' :: text ++ List.replicate (columnWidth - width text) ' ' ++ [' ', '|']

/-- All lines of a record. Shorter cells are blank at the end. -/
def block (width : List Char → Nat) (widths : List Nat) (record : List (List (List Char))) :
    List (List Char) :=
  let height := (record.map List.length).foldl max 1
  (List.range height).map fun index =>
    lineText width widths (record.map fun cell => cell.getD index [])

def layout (width : List Char → Nat) (batch : Batch) : List (List Char) :=
  let columns := batch.columns.length
  let title := cells columns batch.titles
  let body := batch.records.map (cells columns)
  let widths := widths width columns (title :: body)
  border widths :: block width widths title ++
    border widths :: body.flatMap (block width widths) ++ [border widths]

def boxes : Printer where
  assemble headings columns :=
    if (Batch.mk headings columns).Regular then .ok ⟨headings, columns⟩
    else .error "columns that do not go together"
  write batch := .ok (String.ofList (['\n'].intercalate (layout Text.width batch)))

end TabularQuery.Grid

import TabularQuery.Query.Error

/-! A dataset handed to a printer, which draws it as a grid. The grid is as wide as the widest of the header and the rows;
missing titles and cells are blank. What a printer does with columns is its own affair: it may refuse to put them together,
and it may fail to write them. -/

namespace TabularQuery.Grid

structure Heading where
  title : String
  nullable : Bool
  deriving DecidableEq

structure Batch where
  headings : List Heading
  columns : List (List (Option String))

/-- Both steps can end with a reason why they failed. -/
structure Printer where
  assemble : List Heading → List (List (Option String)) → Except String Batch
  write : Batch → Except String String

def across (dataset : Dataset) : Nat := (dataset.rows.map List.length).foldl max dataset.header.length

def headings (dataset : Dataset) : List Heading :=
  (List.range (across dataset)).map fun index => ⟨Row.field dataset.header index, false⟩

def columns (dataset : Dataset) : List (List (Option String)) :=
  (List.range (across dataset)).map fun index => (dataset.columnValues index).map some

/-- Without columns there is no grid, and the printer is not asked. -/
def render (printer : Printer) (dataset : Dataset) : Except QueryError String :=
  if across dataset = 0 then .ok ""
  else ((printer.assemble (headings dataset) (columns dataset)).bind printer.write).mapError .undrawable

end TabularQuery.Grid

import TabularQuery.Proofs.DisplayWidth
import TabularQuery.Proofs.GridLayout

/-! The printer of the program draws boxes. Its lines are those that the pieces of the records give, and no line of the drawing
is broken. -/

namespace TabularQuery.Grid

section
variable {width : List Char → Nat} {columns : Nat}

/-- The width that a column of some records is drawn with. -/
def widest (width : List Char → Nat) (records : List Row) (index : Nat) : Nat :=
  columnWidth width (records.map fun record => pieces record index)

/-- The lines of a record as they are drawn with others. -/
def drawn (width : List Char → Nat) (columns : Nat) (widths : Nat → Nat) (record : Row) : List (List Char) :=
  block width ((List.range columns).map widths) (cells columns record)

section
variable {batch : Batch}

end

end

end TabularQuery.Grid

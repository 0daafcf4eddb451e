/-! A dataset is a header of column names and rows of text. Rows may be shorter or longer
than the header, and a field that a row lacks reads as the empty text. -/

namespace TabularQuery

abbrev Row := List String

structure Dataset where
  header : List String
  rows : List Row
  deriving DecidableEq

def Row.field (row : Row) (index : Nat) : String := row.getD index ""

namespace Dataset

/-- The first column of a name. -/
def column? (dataset : Dataset) (name : String) : Option Nat := dataset.header.idxOf? name

def columnValues (dataset : Dataset) (index : Nat) : List String :=
  dataset.rows.map fun row => Row.field row index

def keep (dataset : Dataset) (test : Row → Bool) : Dataset :=
  { dataset with rows := dataset.rows.filter test }

end Dataset
end TabularQuery

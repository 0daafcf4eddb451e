import TabularQuery.Dataset
import TabularQuery.Delimited.Record
import TabularQuery.Text.Utf8

/-! Delimited text loaded as a dataset. The first record is the header. A record that is
no text, or in strict loading one of another length than the header, stops the load; rows
of another length are otherwise kept and reported. -/

namespace TabularQuery.Delimited

structure Format where
  delimiter : UInt8 := 44
  strict : Bool := false
  deriving DecidableEq

/-- Records and fields are counted from zero, the header being record zero. -/
inductive Fault
  | unreadable (reason : String)
  | notText (record : Nat) (start : Position) (field : Nat) (validLength : Nat)
  | unequalLength (record : Nat) (start : Position) (fields : Nat) (expected : Nat)
  deriving DecidableEq

def Fault.message : Fault → String
  | .unreadable reason => reason
  | .notText record start field validLength =>
    s!"CSV parse error: record {record} (line {start.line}, field: {field}, byte: {start.byte}): " ++
      s!"invalid utf-8: invalid UTF-8 in field {field} near byte index {validLength}"
  | .unequalLength record start fields expected =>
    s!"CSV error: record {record} (line: {start.line}, byte: {start.byte}): found record with " ++
      s!"{fields} fields, but the previous record has {expected} fields"

/-- A row of another length than the header. Rows are numbered as lines are where every
record takes one line, so the first row has the number two. -/
structure Ragged where
  row : Nat
  fields : Nat
  expected : Nat
  deriving DecidableEq

structure Loaded where
  dataset : Except Fault Dataset
  ragged : List Ragged

def Record.texts (record : Record) (index : Nat) : Except Fault Row :=
  (record.fields.zipIdx).mapM fun (bytes, field) =>
    match Text.decode bytes with
    | .ok text => .ok text
    | .error validLength => .error (.notText index record.start field validLength)

/-- The length of a row is checked before its text. -/
def Record.row (record : Record) (format : Format) (expected index : Nat) : Except Fault Row :=
  if format.strict ∧ record.fields.length ≠ expected then
    .error (.unequalLength index record.start record.fields.length expected)
  else record.texts index

/-- Rows after a fault are neither read nor reported. -/
def loadRows (format : Format) (header : List String) (records : List Record) : Loaded :=
  let rows := records.mapIdx fun index record => record.row format header.length (index + 1)
  let readable := rows.takeWhile Except.isOk
  { dataset := (rows.mapM id).map fun rows => ⟨header, rows⟩
    ragged := ((records.take readable.length).mapIdx fun index record =>
      ⟨index + 2, record.fields.length, header.length⟩).filter fun row => row.fields ≠ row.expected }

/-- Text without a record is a dataset without columns. -/
def load (format : Format) (bytes : List UInt8) : Loaded :=
  match records format.delimiter bytes with
  | [] => ⟨.ok ⟨[], []⟩, []⟩
  | first :: rest =>
    match first.texts 0 with
    | .error fault => ⟨.error fault, []⟩
    | .ok header => loadRows format header rest

end TabularQuery.Delimited

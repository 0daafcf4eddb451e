/-! Delimited text cut into records of fields. A scanner goes through the bytes with one
of five places in mind; at each place a byte is tested in a fixed order, which also
decides what a delimiter means that is a quote or a line end itself. Empty lines make no
record, and the end of the text ends a record that has begun, also between quotes. -/

namespace TabularQuery.Delimited

/-- Lines are counted from one by line feeds, bytes from zero. -/
structure Position where
  line : Nat
  byte : Nat
  deriving DecidableEq

/-- The fields of a record, and where its reading began: right after the byte that ended
the record before it. -/
structure Record where
  fields : List (List UInt8)
  start : Position
  deriving DecidableEq

inductive Place
  | recordStart
  | fieldStart
  | bare
  | quoted
  | afterQuote
  deriving DecidableEq

inductive Action
  | skip
  | keep
  | endField
  | endRecord
  deriving DecidableEq

def quote : UInt8 := 34

def carriageReturn : UInt8 := 13

def lineFeed : UInt8 := 10

def isLineEnd (byte : UInt8) : Bool := byte = carriageReturn || byte = lineFeed

/-- Outside quotes a quote is a byte like any other. -/
def bareStep (delimiter byte : UInt8) : Place × Action :=
  if byte = delimiter then (.fieldStart, .endField)
  else if isLineEnd byte then (.recordStart, .endRecord)
  else (.bare, .keep)

def fieldStep (delimiter byte : UInt8) : Place × Action :=
  if byte = quote then (.quoted, .skip) else bareStep delimiter byte

def step (delimiter : UInt8) (place : Place) (byte : UInt8) : Place × Action :=
  match place with
  | .recordStart =>
    if isLineEnd byte then (.recordStart, .skip) else fieldStep delimiter byte
  | .fieldStart => fieldStep delimiter byte
  | .bare => bareStep delimiter byte
  | .quoted => if byte = quote then (.afterQuote, .skip) else (.quoted, .keep)
  | .afterQuote => if byte = quote then (.quoted, .keep) else bareStep delimiter byte

def Position.advance (position : Position) (byte : UInt8) : Position :=
  ⟨if byte = lineFeed then position.line + 1 else position.line, position.byte + 1⟩

structure Scan where
  place : Place
  here : Position
  start : Position
  field : Array UInt8
  fields : Array (List UInt8)
  records : Array Record

namespace Scan

def begin (here : Position) : Scan := ⟨.recordStart, here, ⟨1, 0⟩, #[], #[], #[]⟩

def endField (scan : Scan) : Scan :=
  { scan with field := #[], fields := scan.fields.push scan.field.toList }

def endRecord (scan : Scan) : Scan :=
  let ended := scan.endField
  { ended with
    start := scan.here
    fields := #[]
    records := scan.records.push ⟨ended.fields.toList, scan.start⟩ }

def feed (delimiter : UInt8) (scan : Scan) (byte : UInt8) : Scan :=
  let next := step delimiter scan.place byte
  let moved := { scan with place := next.1, here := scan.here.advance byte }
  match next.2 with
  | .skip => moved
  | .keep => { moved with field := moved.field.push byte }
  | .endField => moved.endField
  | .endRecord => moved.endRecord

def finish (scan : Scan) : List Record :=
  (if scan.place = .recordStart then scan else scan.endRecord).records.toList

end Scan

/-- A byte order mark at the very start is no part of the text, but its bytes count. -/
def records (delimiter : UInt8) (bytes : List UInt8) : List Record :=
  match bytes with
  | 0xEF :: 0xBB :: 0xBF :: rest => (rest.foldl (Scan.feed delimiter) (Scan.begin ⟨1, 3⟩)).finish
  | _ => (bytes.foldl (Scan.feed delimiter) (Scan.begin ⟨1, 0⟩)).finish

end TabularQuery.Delimited

import Mathlib.Algebra.Order.Ring.Nat
import Mathlib.Data.List.Forall2
import TabularQuery.Proofs.GridBatch

/-! What a drawn grid looks like, for every printer that draws boxes around columns of equal length. A piece is the text of a
field between two line feeds. Every piece of every field stands in its place: the record tells the block of lines, the field
tells the column, and the piece tells the line of the block. All lines are equally wide on the screen, since a column is as
wide as its widest piece and never less than one. -/

namespace TabularQuery.Grid

/-- The pieces of a field. A field that is missing is one blank piece. -/
def pieces (record : Row) (index : Nat) : List (List Char) := (Row.field record index).toList.splitOn '\n'

/-- The piece of a field on a line of its record; below its last piece a field is blank. -/
def piece (record : Row) (index line : Nat) : List Char := (pieces record index).getD line []

/-- The number of pieces of a record's tallest field. -/
def Tall (record : Row) (height : Nat) : Prop := IsGreatest (Set.range fun index => (pieces record index).length) height

def ruled (edge : Char) (cells : List (List Char)) : List Char := edge :: cells.flatMap (· ++ [edge])

def borderLine (columns : Nat) (widths : Nat → Nat) : List Char :=
  ruled '+' ((List.range columns).map fun index => List.replicate (widths index + 2) '-')

def isControl (c : Char) : Bool := c.toNat < 0x20 || (0x7F ≤ c.toNat && c.toNat < 0xA0)

/-- How much room lines take. What a line is ruled and padded with takes one column and joins with nothing around it. -/
structure Measures (width : List Char → Nat) : Prop where
  blank : width [] = 0
  apart : ∀ mark ∈ [' ', '-', '|', '+'], ∀ first rest : List Char,
    width (first ++ mark :: rest) = width first + 1 + width rest

section
variable (width : List Char → Nat)

/-- A piece after one space, with spaces after it up to the width of its column and one more. -/
def padded (columnWidth : Nat) (text : List Char) : List Char :=
  ' ' :: text ++ List.replicate (columnWidth - width text) ' ' ++ [' ']

def recordLine (columns : Nat) (widths : Nat → Nat) (record : Row) (line : Nat) : List Char :=
  ruled '|' ((List.range columns).map fun index => padded width (widths index) (piece record index line))

/-- Boxes around records under their titles. A column is as wide as its widest piece and never less than one, a record takes as
many lines as its tallest field has pieces, each line has the pieces of all fields between edges, and there are borders around
the titles and below the last record. -/
structure Boxed (columns : Nat) (titles : Row) (records : List Row) (widths : Nat → Nat) (lines : Row → List (List Char))
    (output : List (List Char)) : Prop where
  tight : ∀ index < columns, IsGreatest
    (insert 1 {room | ∃ record ∈ titles :: records, ∃ text ∈ pieces record index, width text = room}) (widths index)
  tall : ∀ record ∈ titles :: records, Tall record (lines record).length
  filled : ∀ record ∈ titles :: records, ∀ (line : Nat) (inside : line < (lines record).length),
    (lines record)[line] = recordLine width columns widths record line
  framed : output =
    borderLine columns widths :: lines titles ++ borderLine columns widths :: records.flatMap lines ++ [borderLine columns widths]

/-- A text without control characters except line feeds, and with no piece that is wider than a limit. -/
def isLegible (limit : Nat) (text : String) : Bool :=
  text.toList.all (fun c => !isControl c || c == '\n') && (text.toList.splitOn '\n').all fun part => width part ≤ limit

def Legible (limit : Nat) (records : List Row) : Prop :=
  ∀ record ∈ records, ∀ text ∈ record, isLegible width limit text = true

/-- What is relied on of a printer that draws boxes: how it measures, and what it makes of columns of legible text. -/
structure Printer.Draws (printer : Printer) (limit : Nat) : Prop extends printer.Accepts where
  measures : Measures width
  boxed : ∀ (batch : Batch) (text : String), batch.Regular → Legible width limit (batch.titles :: batch.records) →
    printer.write batch = .ok text →
      ∃ widths lines, Boxed width batch.columns.length batch.titles batch.records widths lines (text.toList.splitOn '\n')

/-- The lines of one record: as many as its tallest field has pieces, and each with the pieces of all fields. No field is beyond
the last column, and each takes the width of its own. -/
structure Block (columns : Nat) (widths : Nat → Nat) (record : Row) (block : List (List Char)) : Prop where
  complete : record.length ≤ columns
  fits : ∀ index < columns, ∀ line, width (padded width (widths index) (piece record index line)) = widths index + 2
  tall : Tall record block.length
  filled : ∀ (line : Nat) (inside : line < block.length), block[line] = recordLine width columns widths record line

/-- The lines of a whole grid with at least one column. -/
structure Table (dataset : Dataset) (columns : Nat) (widths : Nat → Nat) (output : List (List Char)) : Prop where
  wide : ∀ index < columns, IsGreatest
    (insert 1 {room | ∃ record ∈ dataset.header :: dataset.rows, ∃ text ∈ pieces record index, width text = room})
    (widths index)
  stacked : ∃ title blocks, Block width columns widths dataset.header title ∧
    List.Forall₂ (Block width columns widths) dataset.rows blocks ∧
    output = borderLine columns widths :: title ++ borderLine columns widths :: blocks.flatten ++ [borderLine columns widths]
  edged : ∀ line ∈ output, line = borderLine columns widths ∨ ∃ inner, line = '|' :: inner ++ ['|']
  level : ∀ line ∈ output, width line = 1 + ((List.range columns).map fun index => widths index + 3).sum

end

/-! The pieces of a record. -/

theorem pieces_length_pos (record : Row) (index : Nat) : 0 < (pieces record index).length :=
  List.length_pos_iff.mpr (List.splitOn_ne_nil _ _)

theorem pieces_beyond {record : Row} {index : Nat} (beyond : record.length ≤ index) : pieces record index = [[]] := by
  rw [pieces, Row.field, List.getD_eq_getElem?_getD, List.getElem?_eq_none beyond]
  rfl

theorem piece_cases (record : Row) (index line : Nat) :
    piece record index line ∈ pieces record index ∨ piece record index line = [] := by
  rw [piece, List.getD_eq_getElem?_getD]
  cases found : (pieces record index)[line]? with
  | none => exact Or.inr rfl
  | some text => exact Or.inl (List.mem_of_getElem? found)

theorem pieces_stretch {columns : Nat} {record : Row} (complete : record.length ≤ columns) :
    pieces (Row.stretch columns record) = pieces record := by
  funext index
  rw [pieces, Row.field_stretch complete, pieces]

theorem tall_stretch {columns height : Nat} {record : Row} (complete : record.length ≤ columns) :
    Tall (Row.stretch columns record) height ↔ Tall record height := by
  rw [Tall, pieces_stretch complete, Tall]

/-! Lines between edges. -/

theorem ruled_edged (edge : Char) {cells : List (List Char)} (nonempty : cells ≠ []) :
    ∃ inner, ruled edge cells = edge :: inner ++ [edge] := by
  refine ⟨cells.dropLast.flatMap (· ++ [edge]) ++ cells.getLast nonempty, ?_⟩
  conv_lhs => rw [ruled, ← List.dropLast_append_getLast nonempty]
  simp

section
variable {width : List Char → Nat}

theorem Measures.cons (measures : Measures width) {mark : Char} (plain : mark ∈ [' ', '-', '|', '+']) (rest : List Char) :
    width (mark :: rest) = 1 + width rest := by
  have parts := measures.apart mark plain [] rest
  rw [measures.blank, Nat.zero_add] at parts
  exact parts

theorem Measures.replicate (measures : Measures width) {mark : Char} (plain : mark ∈ [' ', '-', '|', '+']) (count : Nat) :
    width (List.replicate count mark) = count := by
  induction count with
  | zero => exact measures.blank
  | succ count ih => rw [List.replicate_succ, measures.cons plain, ih, Nat.add_comm]

theorem Measures.ruled (measures : Measures width) {edge : Char} (plain : edge ∈ [' ', '-', '|', '+'])
    (cells : List (List Char)) : width (ruled edge cells) = 1 + (cells.map fun cell => width cell + 1).sum := by
  rw [Grid.ruled, measures.cons plain]
  congr 1
  induction cells with
  | nil => exact measures.blank
  | cons cell cells ih =>
    rw [List.flatMap_cons, List.append_assoc, List.singleton_append, measures.apart edge plain, ih, List.map_cons, List.sum_cons]

theorem padded_eq (width : List Char → Nat) (columnWidth : Nat) (text : List Char) :
    padded width columnWidth text = ' ' :: (text ++ List.replicate (columnWidth - width text + 1) ' ') := by
  rw [padded, List.cons_append, List.cons_append, List.append_assoc, ← List.replicate_succ']

theorem Measures.padded (measures : Measures width) {columnWidth : Nat} {text : List Char} (fits : width text ≤ columnWidth) :
    width (padded width columnWidth text) = columnWidth + 2 := by
  rw [padded_eq, List.replicate_succ, measures.cons (by decide), measures.apart ' ' (by decide), measures.replicate (by decide)]
  omega

theorem Measures.borderLine (measures : Measures width) (columns : Nat) (widths : Nat → Nat) :
    width (borderLine columns widths) = 1 + ((List.range columns).map fun index => widths index + 3).sum := by
  have dash : '-' ∈ [' ', '-', '|', '+'] := by decide
  rw [Grid.borderLine, measures.ruled (by decide), List.map_map]
  simp only [Function.comp_def, measures.replicate dash, Nat.add_assoc]

theorem Block.line_eq {columns : Nat} {widths : Nat → Nat} {record : Row} {block : List (List Char)}
    (drawn : Block width columns widths record block) {text : List Char} (member : text ∈ block) :
    ∃ line, text = recordLine width columns widths record line := by
  obtain ⟨line, inside, rfl⟩ := List.getElem_of_mem member
  exact ⟨line, drawn.filled line inside⟩

theorem Block.line_width (measures : Measures width) {columns : Nat} {widths : Nat → Nat} {record : Row}
    {block : List (List Char)} (drawn : Block width columns widths record block) {text : List Char} (member : text ∈ block) :
    width text = 1 + ((List.range columns).map fun index => widths index + 3).sum := by
  obtain ⟨line, rfl⟩ := drawn.line_eq member
  rw [recordLine, measures.ruled (by decide), List.map_map]
  congr 2
  apply List.map_congr_left
  intro index inside
  rw [Function.comp_apply, drawn.fits index (List.mem_range.mp inside) line]

/-! From boxes around full records to those around the records of a dataset. -/

section
variable {dataset : Dataset} {widths : Nat → Nat} {lines : Row → List (List Char)} {output : List (List Char)}

theorem pieces_drawn (dataset : Dataset) (index : Nat) :
    {room | ∃ record ∈ Row.stretch (across dataset) dataset.header :: dataset.rows.map (Row.stretch (across dataset)),
      ∃ text ∈ pieces record index, width text = room} =
    {room | ∃ record ∈ dataset.header :: dataset.rows, ∃ text ∈ pieces record index, width text = room} := by
  ext room
  rw [← List.map_cons]
  simp only [List.mem_map, Set.mem_ofPred_eq, exists_exists_and_eq_and]
  constructor
  · rintro ⟨record, member, part⟩
    rw [pieces_stretch (length_le_across member)] at part
    exact ⟨record, member, part⟩
  · rintro ⟨record, member, part⟩
    rw [← pieces_stretch (length_le_across member)] at part
    exact ⟨record, member, part⟩

theorem Boxed.block (measures : Measures width)
    (boxed : Boxed width (across dataset) (Row.stretch (across dataset) dataset.header)
      (dataset.rows.map (Row.stretch (across dataset))) widths lines output)
    {record : Row} (member : record ∈ dataset.header :: dataset.rows) :
    Block width (across dataset) widths record (lines (Row.stretch (across dataset) record)) := by
  have complete := length_le_across member
  have stretched : Row.stretch (across dataset) record ∈
      Row.stretch (across dataset) dataset.header :: dataset.rows.map (Row.stretch (across dataset)) := by
    rw [← List.map_cons]
    exact List.mem_map_of_mem member
  constructor
  · exact complete
  · intro index inside line
    apply measures.padded
    rcases piece_cases record index line with part | blank
    · apply (boxed.tight index inside).2
      rw [pieces_drawn]
      exact Or.inr ⟨record, member, _, part, rfl⟩
    · rw [blank, measures.blank]
      exact Nat.zero_le _
  · exact (tall_stretch complete).mp (boxed.tall _ stretched)
  · intro line inside
    rw [boxed.filled _ stretched line inside]
    simp only [recordLine, piece, pieces_stretch complete]

theorem Boxed.line_cases
    (boxed : Boxed width (across dataset) (Row.stretch (across dataset) dataset.header)
      (dataset.rows.map (Row.stretch (across dataset))) widths lines output) {text : List Char} (member : text ∈ output) :
    text = borderLine (across dataset) widths ∨
      ∃ record ∈ dataset.header :: dataset.rows, text ∈ lines (Row.stretch (across dataset) record) := by
  rw [boxed.framed] at member
  simp only [List.cons_append, List.mem_cons, List.mem_append, List.mem_flatMap, List.mem_map, exists_exists_and_eq_and,
    List.not_mem_nil, or_false] at member
  rcases member with above | (title | middle | ⟨record, inside, body⟩) | below
  · exact Or.inl above
  · exact Or.inr ⟨_, List.mem_cons_self, title⟩
  · exact Or.inl middle
  · exact Or.inr ⟨record, List.mem_cons_of_mem _ inside, body⟩
  · exact Or.inl below

theorem Boxed.table (measures : Measures width) (visible : 0 < across dataset)
    (boxed : Boxed width (across dataset) (Row.stretch (across dataset) dataset.header)
      (dataset.rows.map (Row.stretch (across dataset))) widths lines output) :
    Table width dataset (across dataset) widths output where
  wide index inside := by
    rw [← pieces_drawn]
    exact boxed.tight index inside
  stacked := by
    refine ⟨_, dataset.rows.map fun record => lines (Row.stretch (across dataset) record),
      boxed.block measures List.mem_cons_self, ?_, ?_⟩
    · rw [List.forall₂_map_right_iff, List.forall₂_same]
      exact fun record member => boxed.block measures (List.mem_cons_of_mem _ member)
    · rw [boxed.framed, List.flatMap_map, List.flatMap_def]
  edged text member := by
    rcases boxed.line_cases member with border | ⟨record, inside, part⟩
    · exact Or.inl border
    · obtain ⟨line, rfl⟩ := (boxed.block measures inside).line_eq part
      have nonempty : List.range (across dataset) ≠ [] := by simpa using visible.ne'
      exact Or.inr (ruled_edged '|' (mt List.map_eq_nil_iff.mp nonempty))
  level text member := by
    rcases boxed.line_cases member with rfl | ⟨record, inside, part⟩
    · exact measures.borderLine _ _
    · exact (boxed.block measures inside).line_width measures part

end

/-! What is handed to the printer is legible where the dataset is. -/

theorem Legible.stretch (measures : Measures width) {limit : Nat} {records : List Row}
    (legible : Legible width limit records) (columns : Nat) : Legible width limit (records.map (Row.stretch columns)) := by
  intro _ drawn text member
  obtain ⟨record, inside, rfl⟩ := List.mem_map.mp drawn
  obtain ⟨index, -, rfl⟩ := List.mem_map.mp member
  rw [Row.field, List.getD_eq_getElem?_getD]
  cases found : record[index]? with
  | some text => exact legible record inside text (List.mem_of_getElem? found)
  | none => simp [isLegible, measures.blank]

theorem Printer.Draws.table {printer : Printer} {limit : Nat} (draws : printer.Draws width limit) {dataset : Dataset}
    (visible : 0 < across dataset) (legible : Legible width limit (dataset.header :: dataset.rows)) :
    ∃ text widths, render printer dataset = .ok text ∧
      Table width dataset (across dataset) widths (text.toList.splitOn '\n') := by
  obtain ⟨text, written, drawn⟩ := render_batch draws.toAccepts visible
  have handed := legible.stretch draws.measures (across dataset)
  have count : (batch dataset).columns.length = across dataset := by
    rw [batch, columns, List.length_map, List.length_range]
  rw [List.map_cons, ← titles_batch, ← records_batch visible] at handed
  obtain ⟨widths, lines, boxed⟩ := draws.boxed _ text (batch_regular visible) handed written
  rw [titles_batch, records_batch visible, count] at boxed
  exact ⟨text, widths, drawn, boxed.table draws.measures visible⟩

end

end TabularQuery.Grid

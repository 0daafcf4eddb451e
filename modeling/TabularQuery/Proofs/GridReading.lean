import Mathlib.Data.List.DropRight
import TabularQuery.Proofs.GridBoxes

/-! Reading a grid back. The border tells the widths of the columns, and the edges stand where the widths place them, even when
the fields hold bars of their own. What remains open is the padding, which ends a piece like blanks of its own, and the records
that take several lines, which look like as many records of one line. -/

namespace TabularQuery.Grid

/-- The same pieces in every field, up to trailing blanks. -/
def Alike (first second : Row) : Prop :=
  ∀ index line, (piece first index line).rdropWhile (· == ' ') = (piece second index line).rdropWhile (· == ' ')

/-! Cutting at marks and edges. -/

/-- Two texts before a mark are equal when neither of them goes on with the mark after the other. -/
theorem cut_unique {α : Type} {mark : α} {first second rest other : List α}
    (open₁ : ∀ more, second ≠ first ++ mark :: more) (open₂ : ∀ more, first ≠ second ++ mark :: more)
    (same : first ++ mark :: rest = second ++ mark :: other) : first = second ∧ rest = other := by
  rcases List.append_eq_append_iff.mp same with ⟨between, longer, tail⟩ | ⟨between, longer, tail⟩
  · cases between with
    | nil => exact ⟨by rw [longer, List.append_nil], (List.cons.inj tail).2⟩
    | cons next more =>
      obtain ⟨rfl, -⟩ := List.cons.inj tail
      exact absurd longer (open₁ more)
  · cases between with
    | nil => exact ⟨by rw [longer, List.append_nil], (List.cons.inj tail).2.symm⟩
    | cons next more =>
      obtain ⟨rfl, -⟩ := List.cons.inj tail
      exact absurd longer (open₂ more)

theorem splitOn_ruled {edge : Char} {cells : List (List Char)} (free : ∀ cell ∈ cells, edge ∉ cell) :
    (ruled edge cells).splitOn edge = [] :: (cells ++ [[]]) := by
  have first := List.splitOn_append_cons_self_of_not_mem (List.not_mem_nil (a := edge)) (cells.flatMap (· ++ [edge]))
  rw [ruled, ← List.nil_append (edge :: _), first]
  congr 1
  clear first
  induction cells with
  | nil => rfl
  | cons cell cells ih =>
    obtain ⟨head, tail⟩ := List.forall_mem_cons.mp free
    rw [List.flatMap_cons, List.append_assoc, List.singleton_append,
      List.splitOn_append_cons_self_of_not_mem head, ih tail, List.cons_append]

/-- Cells that are equally wide are told apart even when they hold edges: one that went on after an edge of its own would be
wider than one that ends there. -/
theorem ruled_unique {width : List Char → Nat} (measures : Measures width) {edge : Char} (plain : edge ∈ [' ', '-', '|', '+'])
    {first second : List (List Char)} (even : List.Forall₂ (fun left right => width left = width right) first second)
    (same : ruled edge first = ruled edge second) : first = second := by
  have wider : ∀ {left right : List Char}, width left = width right → ∀ more, right ≠ left ++ edge :: more := by
    intro left right level more longer
    have wide := measures.apart edge plain left more
    rw [← longer] at wide
    omega
  have inner := (List.cons.inj same).2
  clear same
  induction even with
  | nil => rfl
  | cons level _ ih =>
    simp only [List.flatMap_cons, List.append_assoc, List.singleton_append] at inner
    obtain ⟨rfl, rest⟩ := cut_unique (wider level) (wider level.symm) inner
    rw [ih rest]

theorem rdropWhile_append_blanks (text : List Char) (count : Nat) :
    (text ++ List.replicate count ' ').rdropWhile (· == ' ') = text.rdropWhile (· == ' ') := by
  induction count with
  | zero => rw [List.replicate_zero, List.append_nil]
  | succ count ih => rw [List.replicate_succ', ← List.append_assoc, List.rdropWhile_concat_pos _ _ _ rfl, ih]

theorem padded_unique {width : List Char → Nat} {room other : Nat} {first second : List Char}
    (same : padded width room first = padded width other second) :
    first.rdropWhile (· == ' ') = second.rdropWhile (· == ' ') := by
  rw [padded_eq, padded_eq] at same
  have trimmed := congrArg (List.rdropWhile (· == ' ')) (List.cons.inj same).2
  rwa [rdropWhile_append_blanks, rdropWhile_append_blanks] at trimmed

/-! Reading borders and blocks. -/

theorem borderLine_unique {columns others : Nat} {widths otherWidths : Nat → Nat}
    (same : borderLine columns widths = borderLine others otherWidths) :
    columns = others ∧ ∀ index < columns, widths index = otherWidths index := by
  have free : ∀ (columns : Nat) (widths : Nat → Nat),
      ∀ cell ∈ (List.range columns).map fun index => List.replicate (widths index + 2) '-', '+' ∉ cell := by
    intro columns widths cell member
    obtain ⟨index, -, rfl⟩ := List.mem_map.mp member
    simp
  have parts := congrArg (List.splitOn '+') same
  rw [borderLine, borderLine, splitOn_ruled (free _ _), splitOn_ruled (free _ _)] at parts
  have cells := List.append_cancel_right (List.cons.inj parts).2
  have count : columns = others := by simpa using congrArg List.length cells
  subst count
  refine ⟨rfl, fun index inside => ?_⟩
  have cell := List.map_inj_left.mp cells index (List.mem_range.mpr inside)
  have lengths := congrArg List.length cell
  simpa using lengths

theorem piece_beyond {record : Row} {index : Nat} (beyond : record.length ≤ index) (line : Nat) :
    piece record index line = [] := by
  rw [piece, pieces_beyond beyond]
  cases line <;> rfl

theorem Tall.piece_below {record : Row} {height line : Nat} (tall : Tall record height) (below : height ≤ line) (index : Nat) :
    piece record index line = [] := by
  have short : (pieces record index).length ≤ line := (tall.2 ⟨index, rfl⟩).trans below
  rw [piece, List.getD_eq_getElem?_getD, List.getElem?_eq_none short]
  rfl

theorem Tall.pos {record : Row} {height : Nat} (tall : Tall record height) : 0 < height :=
  (pieces_length_pos record 0).trans_le (tall.2 ⟨0, rfl⟩)

section
variable {width : List Char → Nat} {columns : Nat} {widths : Nat → Nat} {record : Row} {block : List (List Char)}

theorem recordLine_ne_borderLine (record : Row) (line : Nat) :
    recordLine width columns widths record line ≠ borderLine columns widths := by
  intro same
  exact absurd (List.cons.inj same).1 (by decide)

theorem Block.ne_nil (drawn : Block width columns widths record block) : block ≠ [] :=
  List.length_pos_iff.mp drawn.tall.pos

theorem Block.ne_append (drawn : Block width columns widths record block) (start more : List (List Char)) :
    block ≠ start ++ borderLine columns widths :: more := by
  intro longer
  have member : borderLine columns widths ∈ block := by
    rw [longer]
    exact List.mem_append_right _ List.mem_cons_self
  obtain ⟨line, same⟩ := drawn.line_eq member
  exact recordLine_ne_borderLine record line same.symm

theorem Block.congr {others : Nat → Nat} (same : ∀ index < columns, widths index = others index)
    (drawn : Block width columns widths record block) : Block width columns others record block where
  tall := drawn.tall
  filled line inside := by
    rw [drawn.filled line inside, recordLine, recordLine]
    congr 1
    apply List.map_congr_left
    intro index member
    rw [same index (List.mem_range.mp member)]
  complete := drawn.complete
  fits index inside line := by
    rw [← same index inside]
    exact drawn.fits index inside line

theorem Block.alike (measures : Measures width) {first second : Row} (one : Block width columns widths first block)
    (two : Block width columns widths second block) : Alike first second := by
  intro index line
  rcases Nat.lt_or_ge index columns with inside | beyond
  · rcases Nat.lt_or_ge line block.length with above | below
    · have same := (one.filled line above).symm.trans (two.filled line above)
      have even : List.Forall₂ (fun left right => width left = width right)
          ((List.range columns).map fun index => padded width (widths index) (piece first index line))
          ((List.range columns).map fun index => padded width (widths index) (piece second index line)) := by
        rw [List.forall₂_map_left_iff, List.forall₂_map_right_iff, List.forall₂_same]
        intro index member
        have inside := List.mem_range.mp member
        exact (one.fits index inside line).trans (two.fits index inside line).symm
      have cells := ruled_unique measures (by decide) even same
      exact padded_unique (List.map_inj_left.mp cells index (List.mem_range.mpr inside))
    · rw [one.tall.piece_below below, two.tall.piece_below below]
  · rw [piece_beyond (one.complete.trans beyond), piece_beyond (two.complete.trans beyond)]

/-- Blocks one below the other are parted where the records are known to end. -/
theorem blocks_alike (measures : Measures width) {first second : List Row} {upper lower : List (List (List Char))}
    (one : List.Forall₂ (Block width columns widths) first upper) (two : List.Forall₂ (Block width columns widths) second lower)
    (same : upper.flatten = lower.flatten)
    (even : ∀ pair ∈ first.zip second, ∀ height, Tall pair.1 height → Tall pair.2 height) :
    List.Forall₂ Alike first second := by
  induction one generalizing second lower with
  | nil =>
    cases two with
    | nil => exact .nil
    | cons drawn _ => exact absurd (List.flatten_eq_nil_iff.mp same.symm _ List.mem_cons_self) drawn.ne_nil
  | @cons record block _ _ drawn _ ih =>
    cases two with
    | nil => exact absurd (List.flatten_eq_nil_iff.mp same _ List.mem_cons_self) drawn.ne_nil
    | cons other others =>
      rw [List.zip_cons_cons, List.forall_mem_cons] at even
      have height := (even.1 _ drawn.tall).unique other.tall
      rw [List.flatten_cons, List.flatten_cons] at same
      obtain ⟨rfl, rest⟩ := List.append_inj same height
      exact .cons (drawn.alike measures other) (ih others rest even.2)

/-! Reading a whole grid. -/

/-- Equal drawings show equal fields. No line of a title is a border, so both titles end at the first border below them. -/
theorem Table.alike (measures : Measures width) {first second : Dataset} {others : Nat} {otherWidths : Nat → Nat}
    {output : List (List Char)} (one : Table width first columns widths output)
    (two : Table width second others otherWidths output) :
    Alike first.header second.header ∧
      ((∀ pair ∈ first.rows.zip second.rows, ∀ height, Tall pair.1 height → Tall pair.2 height) →
        List.Forall₂ Alike first.rows second.rows) := by
  obtain ⟨title, blocks, above, below, stacked⟩ := one.stacked
  obtain ⟨otherTitle, otherBlocks, otherAbove, otherBelow, otherStacked⟩ := two.stacked
  have drawing := stacked.symm.trans otherStacked
  simp only [List.cons_append, List.append_assoc, List.cons.injEq] at drawing
  obtain ⟨border, lines⟩ := drawing
  obtain ⟨rfl, sameWidths⟩ := borderLine_unique border
  replace above := above.congr sameWidths
  replace below := below.imp fun _ _ drawn => drawn.congr sameWidths
  rw [border] at lines
  obtain ⟨rfl, body⟩ := cut_unique (otherAbove.ne_append _) (above.ne_append _) lines
  exact ⟨above.alike measures otherAbove, blocks_alike measures below otherBelow (List.append_cancel_right body)⟩

end

end TabularQuery.Grid

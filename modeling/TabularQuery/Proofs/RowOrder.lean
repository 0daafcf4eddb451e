import TabularQuery.Proofs.ColumnExtremes

/-! The extremes of a column whose rows are put in another order. The order decides in two ways. What is not a number is
the extreme if it comes first and takes no part otherwise, and of the two zeros the first is kept. Nothing else depends on
it: two extremes of the same numbers are not beyond each other, so they have the same key. -/

namespace TabularQuery

namespace Binary64

theorem eq_zero_of_rank {x : Binary64} (none : x.rank = 0) : x = zero x.negative := ext_rank rfl none

theorem display_zero (negative : Bool) : (zero negative).display ∈ ["0.0", "-0.0"] := by
  cases negative <;> decide

end Binary64

namespace Extreme

variable {statistic : Statistic} {comparison : Comparison} {further : Binary64 → Binary64 → Bool} {x y : Binary64}

theorem numbers (extreme : Extreme statistic comparison further) (beyond : further x y = true) :
    x.isNaN = false ∧ y.isNaN = false := by
  cases extreme with
  | least =>
    obtain ⟨left, right, -⟩ := Binary64.less_iff.mp beyond
    exact ⟨left, right⟩
  | greatest =>
    obtain ⟨left, right, -⟩ := Binary64.less_iff.mp beyond
    exact ⟨right, left⟩

theorem key_eq (extreme : Extreme statistic comparison further) (left : x.isNaN = false) (right : y.isNaN = false)
    (first : further x y = false) (second : further y x = false) : x.key = y.key := by
  cases extreme <;> simp only [Binary64.less, left, right, Bool.not_false, Bool.true_and, decide_eq_false_iff_not] at first second
  all_goals omega

theorem of_absent (extreme : Extreme statistic comparison further) {first : Binary64} (absent : first.isNaN = true)
    (rest : List Binary64) : statistic.of first rest = first := by
  rw [extreme.of_eq]
  induction rest with
  | nil => rfl
  | cons next rest ih =>
    have within : further next first = false := by
      rw [Bool.eq_false_iff]
      intro beyond
      rw [(extreme.numbers beyond).2] at absent
      cases absent
    rw [List.foldl_cons, within]
    exact ih

theorem of_number (extreme : Extreme statistic comparison further) {first : Binary64} (number : first.isNaN = false)
    (rest : List Binary64) : (statistic.of first rest).isNaN = false := by
  rw [extreme.of_eq]
  induction rest generalizing first with
  | nil => exact number
  | cons next rest ih =>
    rw [List.foldl_cons]
    apply ih
    split
    next beyond => exact (extreme.numbers beyond).1
    next => exact number

theorem of_alike (extreme : Extreme statistic comparison further) {first other : Binary64} {rest others : List Binary64}
    (alike : ∀ x, x ∈ first :: rest ↔ x ∈ other :: others) (left : first.isNaN = false) (right : other.isNaN = false) :
    statistic.of first rest = statistic.of other others ∨
      ∃ negative, statistic.of first rest = .zero negative ∧ statistic.of other others = .zero !negative ∧
        .zero negative ∈ first :: rest ∧ .zero (!negative) ∈ first :: rest := by
  have member := extreme.of_mem first rest
  have among := (alike _).mpr (extreme.of_mem other others)
  have same := extreme.key_eq (extreme.of_number left rest) (extreme.of_number right others)
    (extreme.not_beyond other others _ ((alike _).mp member)) (extreme.not_beyond first rest _ among)
  rcases Binary64.key_eq_iff.mp same with equal | ⟨none, nothing⟩
  · exact Or.inl equal
  · generalize statistic.of first rest = x at *
    generalize statistic.of other others = y at *
    rw [Binary64.eq_zero_of_rank none] at member ⊢
    rw [Binary64.eq_zero_of_rank nothing] at among ⊢
    by_cases signs : x.negative = y.negative
    · exact Or.inl (congrArg Binary64.zero signs)
    · have opposite : y.negative = !x.negative := by
        cases left : x.negative <;> cases right : y.negative <;> simp_all
      rw [opposite] at among ⊢
      exact Or.inr ⟨x.negative, rfl, rfl, member, among⟩

end Extreme

namespace Dataset

/-- Whether the first field of a column is read as what is not a number. -/
def opensAbsent (dataset : Dataset) (index : Nat) : Bool :=
  ((dataset.columnValues index).head?.bind Literal.parse?).any Binary64.isNaN

variable {dataset other : Dataset} {index : Nat}

theorem exists_numbers (numeric : ∀ row ∈ dataset.rows, (Literal.parse? (Row.field row index)).isSome) :
    ∃ values, dataset.Numbers index values := by
  obtain ⟨header, rows⟩ := dataset
  induction rows with
  | nil => exact ⟨[], rfl⟩
  | cons row rows ih =>
    obtain ⟨x, read⟩ := Option.isSome_iff_exists.mp (numeric row List.mem_cons_self)
    obtain ⟨values, numbers⟩ := ih fun row member => numeric row (List.mem_cons_of_mem _ member)
    refine ⟨x :: values, ?_⟩
    simp only [Numbers, columnValues, List.map_cons, List.map_map] at numbers ⊢
    rw [read, numbers]

theorem Numbers.opensAbsent {first : Binary64} {rest : List Binary64} (numbers : dataset.Numbers index (first :: rest)) :
    dataset.opensAbsent index = first.isNaN := by
  unfold Dataset.opensAbsent
  unfold Numbers at numbers
  cases fields : dataset.columnValues index with
  | nil => simp [fields] at numbers
  | cons field others =>
    rw [fields, List.map_cons, List.map_cons, List.cons.injEq] at numbers
    rw [List.head?_cons, Option.bind_some, numbers.1, Option.any_some]

theorem Numbers.alike {values others : List Binary64} (numbers : dataset.Numbers index values)
    (renumbered : other.Numbers index others) (reordered : dataset.rows.Perm other.rows) (x : Binary64) :
    x ∈ values ↔ x ∈ others := by
  constructor
  · intro member
    obtain ⟨row, inside, read⟩ := numbers.row member
    obtain ⟨y, among, reread⟩ := renumbered.field (reordered.mem_iff.mp inside)
    obtain rfl := Option.some.inj (read.symm.trans reread)
    exact among
  · intro member
    obtain ⟨row, inside, read⟩ := renumbered.row member
    obtain ⟨y, among, reread⟩ := numbers.field (reordered.mem_iff.mpr inside)
    obtain rfl := Option.some.inj (read.symm.trans reread)
    exact among

end Dataset

theorem Summary.summarise_of_measure {summary : Summary} {dataset : Dataset} {measure : Measure}
    (measured : summary.measure dataset = .ok measure) :
    summary.summarise dataset = .ok { dataset with rows := [[measure.text]] } := by
  rw [summarise, measured]
  rfl

theorem Measure.text_absent {value : Binary64} (absent : value.isNaN = true) : (Measure.number value).text = "nan" := by
  rw [Measure.text, Binary64.display, if_pos absent]

/-- The texts of the extremes of the same numbers, of which what is not a number comes first in both or in neither. -/
theorem Extreme.text_of_alike {statistic : Statistic} {comparison : Comparison} {further : Binary64 → Binary64 → Bool}
    (extreme : Extreme statistic comparison further) {first other : Binary64} {rest others : List Binary64}
    (alike : ∀ x, x ∈ first :: rest ↔ x ∈ other :: others) (opening : first.isNaN = other.isNaN) :
    (Measure.number (statistic.of first rest)).text = (Measure.number (statistic.of other others)).text ∨
      (Measure.number (statistic.of first rest)).text ∈ ["0.0", "-0.0"] ∧
        (Measure.number (statistic.of other others)).text ∈ ["0.0", "-0.0"] ∧
        ∀ negative, .zero negative ∈ first :: rest := by
  cases absent : first.isNaN with
  | true =>
    rw [absent] at opening
    left
    rw [extreme.of_absent absent, extreme.of_absent opening.symm, Measure.text_absent absent, Measure.text_absent opening.symm]
  | false =>
    rw [absent] at opening
    rcases extreme.of_alike alike absent opening.symm with same | ⟨negative, zero, opposite, member, among⟩
    · rw [same]
      exact Or.inl rfl
    · rw [zero, opposite]
      refine Or.inr ⟨Binary64.display_zero negative, Binary64.display_zero _, ?_⟩
      intro sign
      by_cases same : sign = negative
      · rw [same]
        exact member
      · rw [Bool.eq_not.mpr same]
        exact among

/-- An extreme of a column of numbers, and that of the same rows in another order. If what is not a number stands first in
both or in neither, the two have the same text, unless they are zeros and the column holds both zeros. -/
theorem Extreme.summarise_reordered {statistic : Statistic} {comparison : Comparison} {further : Binary64 → Binary64 → Bool}
    {dataset other : Dataset} {column : String} {index : Nat} (extreme : Extreme statistic comparison further)
    (header : other.header = dataset.header) (reordered : dataset.rows.Perm other.rows)
    (found : dataset.column? column = some index)
    (numeric : ∀ row ∈ dataset.rows, (Literal.parse? (Row.field row index)).isSome)
    (opening : dataset.opensAbsent index = other.opensAbsent index) :
    ∃ text again, (Summary.mk column statistic).summarise dataset = .ok { dataset with rows := [[text]] } ∧
      (Summary.mk column statistic).summarise other = .ok { other with rows := [[again]] } ∧
      (text = again ∨ text ∈ ["0.0", "-0.0"] ∧ again ∈ ["0.0", "-0.0"] ∧
        ∀ negative, ∃ row ∈ dataset.rows, Literal.parse? (Row.field row index) = some (.zero negative)) := by
  obtain ⟨values, numbers⟩ := Dataset.exists_numbers numeric
  obtain ⟨others, renumbered⟩ := Dataset.exists_numbers fun row member => numeric row (reordered.mem_iff.mpr member)
  have refound : other.column? column = some index := by
    unfold Dataset.column?
    rw [header]
    exact found
  have alike := numbers.alike renumbered reordered
  have measured : (Summary.mk column statistic).measure dataset = .ok _ :=
    Summary.measure_eq_ok_iff.mpr ⟨index, values, found, numbers, rfl⟩
  have remeasured : (Summary.mk column statistic).measure other = .ok _ :=
    Summary.measure_eq_ok_iff.mpr ⟨index, others, refound, renumbered, rfl⟩
  refine ⟨_, _, Summary.summarise_of_measure measured, Summary.summarise_of_measure remeasured, ?_⟩
  cases values with
  | nil =>
    cases others with
    | nil => exact Or.inl rfl
    | cons first rest => exact absurd ((alike first).mpr List.mem_cons_self) List.not_mem_nil
  | cons first rest =>
    cases others with
    | nil => exact absurd ((alike first).mp List.mem_cons_self) List.not_mem_nil
    | cons second others =>
      rw [numbers.opensAbsent, renumbered.opensAbsent] at opening
      rcases extreme.text_of_alike alike opening with same | ⟨zero, again, both⟩
      · exact Or.inl same
      · exact Or.inr ⟨zero, again, fun negative => numbers.row (both negative)⟩

/-- What is not a number stands in the middle, and the column holds both zeros. -/
theorem Extreme.summarise_reordered_zeros :
    [["-0"], ["nan"], ["0_0"], ["3"]].Perm [["3"], ["0_0"], ["nan"], ["-0"]] ∧
    (∀ row ∈ [["-0"], ["nan"], ["0_0"], ["3"]], (Literal.parse? (Row.field row 0)).isSome) ∧
    (Dataset.mk ["price"] [["-0"], ["nan"], ["0_0"], ["3"]]).opensAbsent 0 =
      (Dataset.mk ["price"] [["3"], ["0_0"], ["nan"], ["-0"]]).opensAbsent 0 ∧
    ∃ text again,
      (Summary.mk "price" .minimum).summarise ⟨["price"], [["-0"], ["nan"], ["0_0"], ["3"]]⟩ = .ok ⟨["price"], [[text]]⟩ ∧
      (Summary.mk "price" .minimum).summarise ⟨["price"], [["3"], ["0_0"], ["nan"], ["-0"]]⟩ = .ok ⟨["price"], [[again]]⟩ ∧
      (text = again ∨ text ∈ ["0.0", "-0.0"] ∧ again ∈ ["0.0", "-0.0"] ∧
        ∀ negative, ∃ row ∈ [["-0"], ["nan"], ["0_0"], ["3"]], Literal.parse? (Row.field row 0) = some (.zero negative)) := by
  have reordered : [["-0"], ["nan"], ["0_0"], ["3"]].Perm [["3"], ["0_0"], ["nan"], ["-0"]] := by decide
  have numeric : ∀ row ∈ [["-0"], ["nan"], ["0_0"], ["3"]], (Literal.parse? (Row.field row 0)).isSome := by decide +kernel
  have opening : (Dataset.mk ["price"] [["-0"], ["nan"], ["0_0"], ["3"]]).opensAbsent 0 =
      (Dataset.mk ["price"] [["3"], ["0_0"], ["nan"], ["-0"]]).opensAbsent 0 := by decide +kernel
  have found : (Dataset.mk ["price"] [["-0"], ["nan"], ["0_0"], ["3"]]).column? "price" = some 0 := by decide
  exact ⟨reordered, numeric, opening, Extreme.summarise_reordered .least rfl reordered found numeric opening⟩

/-- Of the same two rows the first decides where one of them is not a number, and where both are zeros. -/
theorem Extreme.first_decides :
    [["nan"], ["1"]].Perm [["1"], ["nan"]] ∧
    (∀ row ∈ [["nan"], ["1"]], (Literal.parse? (Row.field row 0)).isSome) ∧
    (Summary.mk "price" .minimum).summarise ⟨["price"], [["nan"], ["1"]]⟩ = .ok ⟨["price"], [["nan"]]⟩ ∧
    (Summary.mk "price" .minimum).summarise ⟨["price"], [["1"], ["nan"]]⟩ = .ok ⟨["price"], [["1.0"]]⟩ ∧
    [["0"], ["-0"]].Perm [["-0"], ["0"]] ∧
    (∀ row ∈ [["0"], ["-0"]], (Literal.parse? (Row.field row 0)).isSome) ∧
    (Summary.mk "price" .maximum).summarise ⟨["price"], [["0"], ["-0"]]⟩ = .ok ⟨["price"], [["0.0"]]⟩ ∧
    (Summary.mk "price" .maximum).summarise ⟨["price"], [["-0"], ["0"]]⟩ = .ok ⟨["price"], [["-0.0"]]⟩ := by
  decide +kernel

end TabularQuery

import TabularQuery.Proofs.ColumnNumbers
import TabularQuery.Proofs.ExactArithmetic
import TabularQuery.Proofs.HundredthStability
import TabularQuery.Proofs.NumberRoundTrip

/-! A summary of its own result. The result is one cell under the old header, so a summary of the first column finds its
own text there and any other one finds a field that is missing. A number that is read again is the same number, and so is
its least, its greatest and its rounded average. -/

namespace TabularQuery

theorem Statistic.of_single (statistic : Statistic) {value : Binary64}
    (settled : statistic = .average → value.roundHundredths = value) :
    statistic.of (if value.isNaN then .nan else value) [] = if value.isNaN then .nan else value := by
  cases statistic with
  | minimum => rfl
  | maximum => rfl
  | average =>
    show ((Binary64.sum [_]).divide (.ofNat 1)).roundHundredths = _
    rw [Binary64.sum_singleton, Binary64.divide_one]
    by_cases absent : value.isNaN = true
    · rw [if_pos absent]
      decide +kernel
    · simp only [if_neg absent]
      exact settled rfl

theorem Statistic.of_settled (statistic : Statistic) (first : Binary64) (rest : List Binary64) (average : statistic = .average) :
    (statistic.of first rest).roundHundredths = statistic.of first rest := by
  subst average
  exact Binary64.roundHundredths_idem _

theorem Measure.text_reread (value : Binary64) :
    (Measure.number (if value.isNaN then .nan else value)).text = (Measure.number value).text := by
  by_cases absent : value.isNaN = true
  · rw [if_pos absent, Measure.text, Measure.text, Binary64.display, Binary64.display, if_pos Binary64.isNaN_nan, if_pos absent]
  · rw [if_neg absent]

namespace Summary

theorem measureFields_singleton (summary : Summary) (field : String) : summary.measureFields [field] =
    match Literal.parse? field with
    | some x => .ok (.number (summary.statistic.of x []))
    | none => .error (.notNumeric summary.column field) := by
  rw [measureFields, numbers_cons]
  cases Literal.parse? field <;> rfl

theorem asDataset_columnValues (measure : Measure) (dataset : Dataset) (index : Nat) :
    (asDataset measure dataset).columnValues index = [if index = 0 then measure.text else ""] := by
  cases index <;> rfl

theorem asDataset_resolve (measure : Measure) (dataset : Dataset) (column : String) :
    (asDataset measure dataset).resolve column = dataset.resolve column := rfl

theorem asDataset_asDataset (measure other : Measure) (dataset : Dataset) :
    asDataset measure (asDataset other dataset) = asDataset measure dataset := rfl

theorem summarise_asDataset {summary : Summary} {dataset : Dataset} {index : Nat}
    (found : dataset.column? summary.column = some index) (measure : Measure) :
    summary.summarise (asDataset measure dataset) =
      (summary.measureFields [if index = 0 then measure.text else ""]).map (asDataset · dataset) := by
  rw [summarise, Summary.measure, asDataset_resolve, Dataset.resolve_eq_ok_iff.mpr found, Except.bind, asDataset_columnValues]
  simp only [asDataset_asDataset]

/-- A result whose summary is of the first column is its own result again, unless it was that there are no data, which is
no number. Any other column of a result is empty, and that is no number either. -/
theorem summarise_again {summary : Summary} {dataset result : Dataset} (summarised : summary.summarise dataset = .ok result) :
    ∃ index measure, dataset.column? summary.column = some index ∧ summary.measure dataset = .ok measure ∧
      result = asDataset measure dataset ∧
      summary.summarise result =
        match index, measure with
        | 0, .number _ => .ok result
        | 0, .noData => .error (.notNumeric summary.column "No data")
        | _ + 1, _ => .error (.notNumeric summary.column "") := by
  obtain ⟨measure, measured, rfl⟩ := Except.map_eq_ok_iff.mp summarised
  obtain ⟨index, values, found, -, same⟩ := measure_eq_ok_iff.mp measured
  refine ⟨index, measure, found, measured, rfl, ?_⟩
  rw [summarise_asDataset found, measureFields_singleton]
  cases index with
  | succ index =>
    have empty : Literal.parse? "" = none := by decide
    simp only [if_neg (Nat.succ_ne_zero index), empty, Except.map]
  | zero =>
    cases values with
    | nil =>
      subst same
      have placeholder : Literal.parse? Measure.noData.text = none := by decide
      simp only [if_pos, placeholder, Except.map]
      rfl
    | cons first rest =>
      subst same
      have reread : Literal.parse? (Measure.number (summary.statistic.of first rest)).text = some _ := Binary64.parse?_display _
      simp only [if_pos, reread, Except.map]
      rw [summary.statistic.of_single (summary.statistic.of_settled first rest), asDataset, Measure.text_reread]
      rfl

/-- An average that rounds to the negative zero keeps its sign when it is read and averaged again. -/
theorem summarise_again_negativeZero :
    (Summary.mk "price" .average).summarise ⟨["price"], [["-0.004"], ["-0.001"]]⟩ = .ok ⟨["price"], [["-0.0"]]⟩ ∧
    (Summary.mk "price" .average).summarise ⟨["price"], [["-0.0"]]⟩ = .ok ⟨["price"], [["-0.0"]]⟩ := by
  have summarised : (Summary.mk "price" .average).summarise ⟨["price"], [["-0.004"], ["-0.001"]]⟩ =
      .ok ⟨["price"], [["-0.0"]]⟩ := by decide +kernel
  have measured : (Summary.mk "price" .average).measure ⟨["price"], [["-0.004"], ["-0.001"]]⟩ =
      .ok (.number (.zero true)) := by decide +kernel
  obtain ⟨index, measure, found, same, -, again⟩ := summarise_again summarised
  cases found
  cases measured.symm.trans same
  exact ⟨summarised, again⟩

end Summary
end TabularQuery

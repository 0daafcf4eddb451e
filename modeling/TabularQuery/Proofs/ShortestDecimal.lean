import TabularQuery.Number.Shortest
import TabularQuery.Proofs.DecimalRounding

/-! The shortest decimal of a number lies in its basin, and every decimal in a basin rounds
to its rank, at powers of two as well, where the two sides of a basin differ in width. A grid
that meets a basin meets it beside the number, where it is looked for. -/

namespace TabularQuery

namespace Basin
open Binary64

/-- The bounds of a basin in half units. At an odd rank they are strict. -/
private theorem bounds_of_contains {rank numerator denominator : ℕ} (positive : 0 < denominator)
    (inside : (ofRank rank).contains numerator denominator = true) :
    (unitsOfRank (rank - 1) + unitsOfRank rank : ℚ) ≤ numerator / denominator ∧
    (numerator / denominator : ℚ) ≤ unitsOfRank rank + unitsOfRank (rank + 1) ∧
    (rank % 2 = 1 → (unitsOfRank (rank - 1) + unitsOfRank rank : ℚ) < numerator / denominator ∧
      (numerator / denominator : ℚ) < unitsOfRank rank + unitsOfRank (rank + 1)) := by
  have divisor : (0 : ℚ) < denominator := by exact_mod_cast positive
  rw [le_div_iff₀ divisor, div_le_iff₀ divisor, lt_div_iff₀ divisor, div_lt_iff₀ divisor]
  rcases Nat.mod_two_eq_zero_or_one rank with parity | parity
  all_goals simp only [contains, ofRank, parity, decide_true, if_true, one_ne_zero, decide_false, Bool.false_eq_true,
    if_false, decide_eq_true_eq] at inside
  all_goals obtain ⟨low, high⟩ := inside
  · exact ⟨by exact_mod_cast low, by exact_mod_cast high, fun odd => by omega⟩
  · exact ⟨by exact_mod_cast low.le, by exact_mod_cast high.le, fun _ => ⟨by exact_mod_cast low, by exact_mod_cast high⟩⟩

theorem roundsTo_of_contains {rank numerator denominator : ℕ} (finite : rank < infinityRank) (positive : 0 < denominator)
    (inside : (ofRank rank).contains numerator denominator = true) :
    RoundsTo (numerator / denominator / (2 * unitsInOne)) rank := by
  obtain ⟨low, high, strict⟩ := bounds_of_contains positive inside
  have nonnegative : (0 : ℚ) ≤ numerator / denominator := by positivity
  generalize (numerator : ℚ) / denominator = halves at *
  have member : rank ∈ Set.Iic infinityRank := finite.le
  have even : ¬ rank % 2 = 1 → Even rank := fun notOdd => Nat.even_iff.mpr (by omega)
  have nearest : Nearest (fun rank => (unitsOfRank rank : ℚ)) (Set.Iic infinityRank) (halves / 2) rank := by
    rcases le_or_gt (unitsOfRank rank : ℚ) (halves / 2) with above | below
    · have next := units_cast_strictMono.monotone (Nat.le_add_right rank 1)
      apply Nearest.of_between units_cast_strictMono member above (by linarith) (Or.inl ⟨rfl, by linarith⟩)
      exact fun tie => even fun odd => by linarith [(strict odd).2]
    · cases rank with
      | zero =>
        have origin : (unitsOfRank 0 : ℚ) = 0 := by simp [unitsOfRank]
        linarith
      | succ rank =>
        have previous := units_cast_strictMono.monotone (Nat.le_add_right rank 1)
        simp only [Nat.add_sub_cancel] at low strict previous
        apply Nearest.of_between units_cast_strictMono member (by linarith) below.le (Or.inr ⟨rfl, by linarith⟩)
        exact fun tie => even fun odd => by linarith [(strict odd).1]
  have rounded := nearest.scaled unitsInOne_pos
  rw [div_div] at rounded
  rw [RoundsTo, magnitudeOfRank_def]
  exact rounded

theorem contains_of_strict {basin : Basin} {numerator denominator : ℕ} (low : basin.low * denominator < numerator)
    (high : numerator < basin.high * denominator) : basin.contains numerator denominator = true := by
  unfold contains
  split
  · exact decide_eq_true ⟨low.le, high.le⟩
  · exact decide_eq_true ⟨low, high⟩

theorem gridPoint?_contains {basin : Basin} {exponent : ℤ} {d : Decimal} (found : basin.gridPoint? exponent = some d) :
    d.exponent = exponent ∧ basin.contains (d.coefficient * ((Decimal.mk 1 exponent).fraction.1 * (2 * unitsInOne)))
      (Decimal.mk 1 exponent).fraction.2 = true := by
  simp only [gridPoint?] at found
  split at found
  next low high =>
    obtain rfl := Option.some.inj found
    refine ⟨rfl, ?_⟩
    dsimp only
    split
    · exact low
    · exact high
  next low _ =>
    obtain rfl := Option.some.inj found
    exact ⟨rfl, low⟩
  next _ high =>
    obtain rfl := Option.some.inj found
    exact ⟨rfl, high⟩
  next => cases found

theorem gridPoint_value (d : Decimal) :
    ((d.coefficient * ((Decimal.mk 1 d.exponent).fraction.1 * (2 * unitsInOne)) : ℕ) : ℚ) /
      (Decimal.mk 1 d.exponent).fraction.2 / (2 * unitsInOne) = d.value := by
  have step := Decimal.fraction_value (Decimal.mk 1 d.exponent)
  have unit := unitsInOne_pos.ne'
  rw [Decimal.value, Nat.cast_one, one_mul] at step
  rw [Decimal.value, ← step]
  push_cast
  field_simp

theorem gridPoint?_roundsTo {rank : ℕ} {exponent : ℤ} {d : Decimal} (finite : rank < infinityRank)
    (found : (ofRank rank).gridPoint? exponent = some d) : RoundsTo d.value rank := by
  obtain ⟨rfl, inside⟩ := gridPoint?_contains found
  have rounded := roundsTo_of_contains finite (Decimal.fraction_pos _) inside
  rwa [gridPoint_value] at rounded

theorem value_inside {rank : ℕ} (positive : 0 < rank) :
    (ofRank rank).low < (ofRank rank).value ∧ (ofRank rank).value < (ofRank rank).high := by
  have previous : unitsOfRank (rank - 1) < unitsOfRank rank := unitsOfRank_strictMono (by omega)
  have next : unitsOfRank rank < unitsOfRank (rank + 1) := unitsOfRank_strictMono (Nat.lt_succ_self rank)
  simp only [ofRank]
  omega

theorem contains_between {basin : Basin} {near far denominator : ℕ} (divisor : 0 < denominator)
    (low : basin.low < basin.value) (high : basin.value < basin.high) (inside : basin.contains far denominator = true)
    (between : far ≤ near ∧ near ≤ basin.value * denominator ∨ basin.value * denominator ≤ near ∧ near ≤ far) :
    basin.contains near denominator = true := by
  have below := Nat.mul_lt_mul_of_pos_right low divisor
  have above := Nat.mul_lt_mul_of_pos_right high divisor
  unfold contains at *
  split
  next closed =>
    simp only [closed, if_true, decide_eq_true_eq] at inside ⊢
    omega
  next opened =>
    simp only [opened, Bool.false_eq_true, if_false, decide_eq_true_eq] at inside ⊢
    omega

theorem step_pos (exponent : ℤ) : 0 < (Decimal.mk 1 exponent).fraction.1 * (2 * unitsInOne) := by
  have unit : 0 < unitsInOne := by exact_mod_cast unitsInOne_pos
  have whole : 0 < (Decimal.mk 1 exponent).fraction.1 := by
    unfold Decimal.fraction
    split
    · simp
    · simp
  exact Nat.mul_pos whole (Nat.mul_pos Nat.two_pos unit)

/-- A grid with a point in the basin has one of the two points beside the value in it. -/
theorem gridPoint?_of_contains {rank : ℕ} {exponent : ℤ} (count : ℕ) (positive : 0 < rank)
    (inside : (ofRank rank).contains (count * ((Decimal.mk 1 exponent).fraction.1 * (2 * unitsInOne)))
      (Decimal.mk 1 exponent).fraction.2 = true) : ∃ d, (ofRank rank).gridPoint? exponent = some d := by
  have divisor := (Decimal.mk 1 exponent).fraction_pos
  obtain ⟨low, high⟩ := value_inside positive
  have step := step_pos exponent
  simp only [gridPoint?]
  generalize (Decimal.mk 1 exponent).fraction.1 * (2 * unitsInOne) = width at *
  generalize (Decimal.mk 1 exponent).fraction.2 = scale at *
  have below : (ofRank rank).value * scale / width * width ≤ (ofRank rank).value * scale := Nat.div_mul_le_self _ _
  have above : (ofRank rank).value * scale < ((ofRank rank).value * scale / width + 1) * width :=
    Nat.lt_mul_of_div_lt (Nat.lt_succ_self _) step
  generalize (ofRank rank).value * scale / width = floor at *
  rcases Nat.lt_or_ge floor count with beyond | within
  · have met := contains_between divisor low high inside
      (Or.inr ⟨above.le, Nat.mul_le_mul_right width (Nat.succ_le_of_lt beyond)⟩)
    rw [met]
    split <;> simp_all
  · have met := contains_between divisor low high inside (Or.inl ⟨Nat.mul_le_mul_right width within, below⟩)
    rw [met]
    split <;> simp_all

theorem finest_step : 2 * unitsInOne ≤ (Decimal.mk 1 (-324)).fraction.2 := by decide +kernel

/-- The finest grid has a step below half a unit, so the point beneath the number is in the basin. -/
theorem gridPoint?_finest {rank : ℕ} (positive : 0 < rank) : ∃ d, (ofRank rank).gridPoint? (-324) = some d := by
  obtain ⟨low, high⟩ := value_inside positive
  have fine := finest_step
  have whole : (Decimal.mk 1 (-324)).fraction.1 = 1 := rfl
  have unit : 0 < unitsInOne := by exact_mod_cast unitsInOne_pos
  have wide : 0 < 2 * unitsInOne := Nat.mul_pos Nat.two_pos unit
  apply gridPoint?_of_contains ((ofRank rank).value * (Decimal.mk 1 (-324)).fraction.2 / (2 * unitsInOne)) positive
  rw [whole, Nat.one_mul]
  generalize (Decimal.mk 1 (-324)).fraction.2 = scale at *
  generalize 2 * unitsInOne = width at *
  have below : (ofRank rank).value * scale / width * width ≤ (ofRank rank).value * scale := Nat.div_mul_le_self _ _
  have above : (ofRank rank).value * scale < ((ofRank rank).value * scale / width + 1) * width :=
    Nat.lt_mul_of_div_lt (Nat.lt_succ_self _) wide
  exact contains_of_strict (by nlinarith) (by nlinarith)

theorem coarsestPoint_found {rank : ℕ} (positive : 0 < rank) (height : ℕ) :
    (ofRank rank).gridPoint? ((ofRank rank).coarsestPoint height).exponent = some ((ofRank rank).coarsestPoint height) := by
  have stopped : ∀ {exponent : ℤ} {d : Decimal}, (ofRank rank).gridPoint? exponent = some d →
      (ofRank rank).gridPoint? d.exponent = some d := by
    intro exponent d found
    rwa [(gridPoint?_contains found).1]
  induction height with
  | zero =>
    obtain ⟨finest, found⟩ := gridPoint?_finest positive
    rw [coarsestPoint, found]
    exact stopped found
  | succ height ih =>
    rw [coarsestPoint]
    cases coarser : (ofRank rank).gridPoint? ((height : ℤ) + 1 - 324) with
    | none => exact ih
    | some d => exact stopped coarser

theorem coarsestPoint_roundsTo {rank : ℕ} (positive : 0 < rank) (finite : rank < infinityRank) (height : ℕ) :
    RoundsTo ((ofRank rank).coarsestPoint height).value rank :=
  gridPoint?_roundsTo finite (coarsestPoint_found positive height)

end Basin

/-- The shortest decimal of a number is rounded to that number. -/
theorem Binary64.shortest_roundsTo (x : Binary64) (positive : 0 < x.rank) (finite : x.rank < infinityRank) :
    RoundsTo x.shortest.value x.rank :=
  Basin.coarsestPoint_roundsTo positive finite _

end TabularQuery

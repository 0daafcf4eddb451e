import Mathlib.Algebra.Order.Field.Basic
import Mathlib.Algebra.Order.Field.Rat
import Mathlib.Order.Interval.Set.OrdConnected
import Mathlib.Tactic.Linarith
import Mathlib.Tactic.Ring
import Mathlib.Tactic.Push

/-! Rounding to the nearest place of a scale. The scale gives every place a value, and of
two places equally near the even one is taken. Whole numbers and binary numbers are both
scales, so the uniqueness and the monotonicity of their roundings are proved once. -/

namespace TabularQuery

/-- A place of the scale whose value is nearest to a point, ties to even. -/
structure Nearest {ι : Type} [Add ι] (scale : ι → ℚ) (places : Set ι) (point : ℚ) (place : ι) : Prop where
  member : place ∈ places
  closest : ∀ other ∈ places, |scale place - point| ≤ |scale other - point|
  even : ∀ other ∈ places, other ≠ place → |scale other - point| = |scale place - point| → Even place

namespace Nearest

variable {scale : ℕ → ℚ} {places : Set ℕ} {point : ℚ} {place : ℕ}

theorem exact (increasing : StrictMono scale) (member : place ∈ places) (same : scale place = point) :
    Nearest scale places point place := by
  refine ⟨member, ?_, ?_⟩
  · intro other _
    rw [same, sub_self, abs_zero]
    exact abs_nonneg _
  · intro other _ different equal
    rw [same, sub_self, abs_zero, abs_eq_zero, sub_eq_zero, ← same] at equal
    exact absurd (increasing.injective equal) different

theorem of_between (increasing : StrictMono scale) {floor : ℕ} (member : place ∈ places)
    (below : scale floor ≤ point) (above : point ≤ scale (floor + 1))
    (choice : place = floor ∧ 2 * point ≤ scale floor + scale (floor + 1) ∨
      place = floor + 1 ∧ scale floor + scale (floor + 1) ≤ 2 * point)
    (tie : 2 * point = scale floor + scale (floor + 1) → Even place) :
    Nearest scale places point place := by
  have side : ∀ other, scale other ≤ scale floor ∨ scale (floor + 1) ≤ scale other := by
    intro other
    rcases Nat.lt_or_ge floor other with later | earlier
    · exact Or.inr (increasing.monotone later)
    · exact Or.inl (increasing.monotone earlier)
  have low : |scale floor - point| = point - scale floor := by
    rw [abs_of_nonpos (by linarith)]; ring
  have high : |scale (floor + 1) - point| = scale (floor + 1) - point :=
    abs_of_nonneg (by linarith)
  have beyond : ∀ other, scale other ≤ scale floor ∧ |scale other - point| = point - scale other ∨
      scale (floor + 1) ≤ scale other ∧ |scale other - point| = scale other - point := by
    intro other
    rcases side other with earlier | later
    · exact Or.inl ⟨earlier, by rw [abs_of_nonpos (by linarith)]; ring⟩
    · exact Or.inr ⟨later, abs_of_nonneg (by linarith)⟩
  refine ⟨member, ?_, ?_⟩
  · intro other _
    rcases choice with ⟨rfl, near⟩ | ⟨rfl, near⟩ <;> rcases beyond other with ⟨apart, far⟩ | ⟨apart, far⟩
    all_goals rw [far]; linarith
  · intro other _ different equal
    apply tie
    rcases choice with ⟨rfl, near⟩ | ⟨rfl, near⟩ <;> rcases beyond other with ⟨apart, far⟩ | ⟨apart, far⟩
    · rw [far, low] at equal
      exact absurd (increasing.injective (by linarith)) different
    · rw [far, low] at equal; linarith
    · rw [far, high] at equal; linarith
    · rw [far, high] at equal
      exact absurd (increasing.injective (by linarith)) different

private theorem midpoint_le {near far point : ℚ} (apart : far < near) (closer : |near - point| ≤ |far - point|) :
    far + near ≤ 2 * point := by
  rcases abs_cases (near - point) with ⟨left, _⟩ | ⟨left, _⟩ <;>
    rcases abs_cases (far - point) with ⟨right, _⟩ | ⟨right, _⟩ <;> linarith

private theorem le_midpoint {near far point : ℚ} (apart : near < far) (closer : |near - point| ≤ |far - point|) :
    2 * point ≤ near + far := by
  rcases abs_cases (near - point) with ⟨left, _⟩ | ⟨left, _⟩ <;>
    rcases abs_cases (far - point) with ⟨right, _⟩ | ⟨right, _⟩ <;> linarith

/-- Rounding keeps the order of points. Two places could only cross at one common midpoint;
both would then be even, and an odd place between them nearer than either. -/
theorem mono (increasing : StrictMono scale) (connected : places.OrdConnected) {later : ℚ} {after : ℕ}
    (ordered : point ≤ later) (first : Nearest scale places point place)
    (second : Nearest scale places later after) : place ≤ after := by
  by_contra crossed
  have less : after < place := Nat.lt_of_not_le crossed
  have apart : scale after < scale place := increasing less
  have upper := midpoint_le apart (first.closest after second.member)
  have lower := le_midpoint apart (second.closest place first.member)
  have same : later = point := by linarith
  subst same
  have high : |scale place - later| = scale place - later := abs_of_nonneg (by linarith)
  have low : |scale after - later| = later - scale after := by
    rw [abs_of_nonpos (by linarith)]; ring
  have equal : |scale after - later| = |scale place - later| := by rw [high, low]; linarith
  have evenPlace := first.even after second.member less.ne equal
  have evenAfter := second.even place first.member less.ne' equal.symm
  have gap : after + 1 < place := by
    obtain ⟨i, rfl⟩ := evenPlace
    obtain ⟨j, rfl⟩ := evenAfter
    omega
  have inside : after + 1 ∈ places := connected.out second.member first.member ⟨by omega, gap.le⟩
  have nearer := second.closest (after + 1) inside
  have above : scale after < scale (after + 1) := increasing (by omega)
  have beneath : scale (after + 1) < scale place := increasing gap
  rw [low] at nearer
  rcases abs_cases (scale (after + 1) - later) with ⟨side, _⟩ | ⟨side, _⟩ <;> linarith

theorem unique (increasing : StrictMono scale) (connected : places.OrdConnected) {other : ℕ}
    (first : Nearest scale places point place) (second : Nearest scale places point other) : place = other :=
  Nat.le_antisymm (first.mono increasing connected le_rfl second) (second.mono increasing connected le_rfl first)

theorem above_floor {floor : ℕ} (increasing : StrictMono scale) (nearest : Nearest scale places point place)
    (member : floor ∈ places) (beyond : floor < place) : scale floor + scale (floor + 1) ≤ 2 * point := by
  have middle := midpoint_le (increasing beyond) (nearest.closest floor member)
  have next : scale (floor + 1) ≤ scale place := increasing.monotone beyond
  linarith

theorem below_ceiling {floor : ℕ} (increasing : StrictMono scale) (nearest : Nearest scale places point place)
    (member : floor + 1 ∈ places) (within : place ≤ floor) : 2 * point ≤ scale floor + scale (floor + 1) := by
  have middle := le_midpoint (increasing (Nat.lt_succ_of_le within)) (nearest.closest (floor + 1) member)
  have last : scale place ≤ scale floor := increasing.monotone within
  linarith

theorem of_midpoint {floor : ℕ} (increasing : StrictMono scale) (nearest : Nearest scale places point place)
    (member : floor ∈ places) (next : floor + 1 ∈ places) (halfway : 2 * point = scale floor + scale (floor + 1)) :
    (place = floor ∨ place = floor + 1) ∧ Even place := by
  have apart : scale floor < scale (floor + 1) := increasing (Nat.lt_succ_self floor)
  have equal : |scale floor - point| = |scale (floor + 1) - point| := by
    rw [abs_of_nonpos (by linarith), abs_of_nonneg (by linarith)]
    linarith
  rcases Nat.lt_or_ge floor place with beyond | within
  · have middle := midpoint_le (increasing beyond) (nearest.closest floor member)
    have same : place = floor + 1 := by
      by_contra different
      have further : scale (floor + 1) < scale place := increasing (by omega)
      linarith
    subst same
    exact ⟨Or.inr rfl, nearest.even floor member (by omega) equal⟩
  · have middle := le_midpoint (increasing (Nat.lt_succ_of_le within)) (nearest.closest (floor + 1) next)
    have same : place = floor := by
      by_contra different
      have further : scale place < scale floor := increasing (by omega)
      linarith
    subst same
    exact ⟨Or.inl rfl, nearest.even (place + 1) next (by omega) equal.symm⟩

theorem le_even_iff {floor : ℕ} (increasing : StrictMono scale) (nearest : Nearest scale places point place)
    (member : floor ∈ places) (next : floor + 1 ∈ places) (even : Even floor) :
    place ≤ floor ↔ 2 * point ≤ scale floor + scale (floor + 1) := by
  refine ⟨nearest.below_ceiling increasing next, fun low => ?_⟩
  by_contra beyond
  have high := nearest.above_floor increasing member (Nat.lt_of_not_le beyond)
  obtain ⟨rfl | rfl, evenPlace⟩ := nearest.of_midpoint increasing member next (le_antisymm low high)
  · exact beyond le_rfl
  · exact (Nat.even_add_one.mp evenPlace) even

theorem le_odd_iff {floor : ℕ} (increasing : StrictMono scale) (nearest : Nearest scale places point place)
    (member : floor ∈ places) (next : floor + 1 ∈ places) (odd : ¬ Even floor) :
    place ≤ floor ↔ 2 * point < scale floor + scale (floor + 1) := by
  refine ⟨fun within => lt_of_le_of_ne (nearest.below_ceiling increasing next within) fun halfway => ?_, fun low => ?_⟩
  · obtain ⟨rfl | rfl, evenPlace⟩ := nearest.of_midpoint increasing member next halfway
    · exact odd evenPlace
    · omega
  · by_contra beyond
    exact absurd (nearest.above_floor increasing member (Nat.lt_of_not_le beyond)) low.not_ge

/-- Where the scale is cut off at an even place, every point beyond rounds to that place. -/
theorem cut (increasing : StrictMono scale) {top : ℕ} (evenTop : Even top)
    (nearest : Nearest scale Set.univ point place) : Nearest scale (Set.Iic top) point (min place top) := by
  rcases Nat.lt_or_ge top place with beyond | within
  · rw [Nat.min_eq_right beyond.le]
    have apart := increasing beyond
    have middle := midpoint_le apart (nearest.closest top trivial)
    refine ⟨Set.mem_Iic.mpr le_rfl, ?_, fun _ _ _ _ => evenTop⟩
    intro other member
    have lower : scale other ≤ scale top := increasing.monotone member
    rw [abs_of_nonpos (by linarith), abs_of_nonpos (by linarith)]
    linarith
  · rw [Nat.min_eq_left within]
    exact ⟨within, fun other _ => nearest.closest other trivial, fun other _ => nearest.even other trivial⟩

theorem scaled {unit : ℚ} (positive : 0 < unit) (nearest : Nearest scale places point place) :
    Nearest (fun place => scale place / unit) places (point / unit) place := by
  have distance : ∀ other, |scale other / unit - point / unit| = |scale other - point| / unit := by
    intro other
    rw [← sub_div, abs_div, abs_of_pos positive]
  refine ⟨nearest.member, ?_, ?_⟩
  · intro other member
    rw [distance, distance]
    exact div_le_div_of_nonneg_right (nearest.closest other member) positive.le
  · intro other member different equal
    rw [distance, distance, div_left_inj' positive.ne'] at equal
    exact nearest.even other member different equal

private theorem distance_negSucc (nonnegative : 0 ≤ point) (n : ℕ) :
    |((Int.negSucc n : ℤ) : ℚ) - point| = n + 1 + point := by
  have natural : (0 : ℚ) ≤ n := Nat.cast_nonneg n
  rw [Int.cast_negSucc, abs_of_nonpos (by push_cast; linarith)]
  push_cast
  ring

theorem toInt (nonnegative : 0 ≤ point) (nearest : Nearest (fun n : ℕ => (n : ℚ)) Set.univ point place) :
    Nearest (fun n : ℤ => (n : ℚ)) Set.univ point (place : ℤ) := by
  have origin := nearest.closest 0 trivial
  simp only [Nat.cast_zero, zero_sub, abs_neg, abs_of_nonneg nonnegative] at origin
  refine ⟨trivial, ?_, ?_⟩
  · intro other _
    cases other with
    | ofNat other => simpa using nearest.closest other trivial
    | negSucc other =>
      rw [distance_negSucc nonnegative, Int.cast_natCast]
      linarith [Nat.cast_nonneg (α := ℚ) other]
  · intro other _ different equal
    cases other with
    | ofNat other =>
      have even := nearest.even other trivial (by simpa using different) (by simpa using equal)
      simpa using even
    | negSucc other =>
      rw [distance_negSucc nonnegative, Int.cast_natCast] at equal
      linarith [Nat.cast_nonneg (α := ℚ) other]

end Nearest
end TabularQuery

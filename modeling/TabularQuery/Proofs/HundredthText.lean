import Mathlib.Tactic.NormNum
import TabularQuery.Proofs.HundredthRounding
import TabularQuery.Proofs.NumberText
import TabularQuery.Proofs.FewestDigits

/-! A number rounded to hundredths is written with at most two digits after the point, and as
long as neighbours are closer than a cent the text is exactly the count of hundredths. The
binary error of the rounded number is never written: the count of hundredths is itself a
decimal of that number, so the shortest one stands on no finer grid. -/

namespace TabularQuery

namespace Literal

/-- A number in place with one or two digits after the point: its text, its sign and its exact magnitude. -/
inductive TwoPlaces : List Char → Bool → ℚ → Prop
  | written {whole fraction : List Char} (negative : Bool) (digital : Digits whole) (nonempty : whole ≠ [])
      (fractional : Digits fraction) (places : fraction.length = 1 ∨ fraction.length = 2) :
      TwoPlaces ((if negative then ['-'] else []) ++ (whole ++ '.' :: fraction)) negative
        (number whole + number fraction / 10 ^ fraction.length)

theorem TwoPlaces.unmarked {text : List Char} {negative : Bool} {magnitude : ℚ} (places : TwoPlaces text negative magnitude) :
    'e' ∉ text := by
  obtain ⟨negative, digital, -, fractional, -⟩ := places
  have plain := Binary64.pointed_unmarked digital fractional
  intro member
  rcases List.mem_append.mp member with minus | body
  · cases negative
    · cases minus
    · exact absurd minus (by decide)
  · exact plain body

end Literal

namespace Decimal
open Literal Binary64

theorem exists_hundredths {d : Decimal} (fine : -2 ≤ d.exponent) : ∃ count : ℕ, d.value = count / 100 := by
  obtain ⟨places, exponent⟩ : ∃ places : ℕ, d.exponent = places - 2 := ⟨(d.exponent + 2).toNat, by omega⟩
  refine ⟨d.coefficient * 10 ^ places, ?_⟩
  rw [value, exponent, zpow_sub₀ (by norm_num), zpow_natCast]
  push_cast
  ring

theorem le_leadingExponent (d : Decimal) : d.exponent ≤ d.leadingExponent := by
  have nonempty := List.length_pos_of_ne_nil (Nat.toDigits_ne_nil (n := d.coefficient) (b := 10))
  rw [leadingExponent]
  omega

theorem compact_twoPlaces {d : Decimal} (negative : Bool) (fine : -2 ≤ d.exponent) (small : d.leadingExponent < 16) :
    TwoPlaces ((if negative then ['-'] else []) ++ d.compact) negative d.value := by
  have leading := d.le_leadingExponent
  have inPlace : -4 ≤ d.leadingExponent ∧ d.leadingExponent < 16 := ⟨by omega, small⟩
  rw [compact, if_pos inPlace]
  by_cases pointed : d.exponent < 0
  · obtain ⟨whole, fraction, text, digital, nonempty, fractional, places, value⟩ := d.positional_pointed pointed
    rw [if_pos pointed, text, value]
    exact .written negative digital nonempty fractional (by omega)
  · obtain ⟨digital, nonempty, value⟩ := d.positional_digits pointed
    have zero : number ['0'] = 0 := rfl
    have written := TwoPlaces.written negative digital nonempty (digits_toDigits 0) (Or.inl rfl)
    rw [Nat.toDigits_zero, zero, Nat.cast_zero, zero_div, add_zero, ← value] at written
    rwa [if_neg pointed]

end Decimal

namespace Binary64
open Literal

/-! The numbers below 10¹⁶ and below 2⁴⁶. -/

theorem finite_of_small {rank : ℕ} (small : magnitudeOfRank rank < 10 ^ 16) : rank < infinityRank := by
  obtain ⟨limit, finite, same⟩ := exists_ten_pow_sixteen
  rw [← same, magnitudeOfRank_strictMono.lt_iff_lt] at small
  exact small.trans finite

theorem RoundsTo.small {magnitude : ℚ} {rank : ℕ} (small : magnitudeOfRank rank < 10 ^ 16) (rounded : RoundsTo magnitude rank) :
    magnitude < 10 ^ 16 := by
  by_contra! large
  obtain ⟨limit, finite, same⟩ := exists_ten_pow_sixteen
  rw [← same] at small large
  have reached := (roundsTo_exact finite.le).mono large rounded
  exact absurd (magnitudeOfRank_strictMono.monotone reached) small.not_ge

theorem step_le {rank : ℕ} (below : magnitudeOfRank rank < 2 ^ 46) :
    magnitudeOfRank (rank + 1) ≤ magnitudeOfRank rank + 1 / 2 ^ 7 := by
  obtain ⟨shift, significand, rfl, normal, bounded⟩ := exists_binade rank
  rw [Nat.add_assoc, magnitudeOfRank_binade shift (significand + 1) (by omega) (by omega)]
  rw [magnitudeOfRank_binade shift significand normal bounded.le] at below ⊢
  have early : (shift : ℤ) - 1074 ≤ -7 := by
    by_contra late
    have large : (2 : ℚ) ^ 52 ≤ significand := by exact_mod_cast normal.resolve_left (by omega)
    have wide : (2 : ℚ) ^ (-6 : ℤ) ≤ 2 ^ ((shift : ℤ) - 1074) := zpow_le_zpow_right₀ (by norm_num) (by omega)
    have least : (2 : ℚ) ^ 46 = 2 ^ 52 * 2 ^ (-6 : ℤ) := by norm_num
    rw [least] at below
    exact absurd (mul_le_mul large wide (by positivity) (by positivity)) below.not_ge
  have narrow : (2 : ℚ) ^ ((shift : ℤ) - 1074) ≤ 2 ^ (-7 : ℤ) := zpow_le_zpow_right₀ (by norm_num) early
  have unit : (2 : ℚ) ^ (-7 : ℤ) = 1 / 2 ^ 7 := by norm_num
  rw [unit] at narrow
  push_cast
  linarith

theorem RoundsTo.close {point : ℚ} {rank : ℕ} (nonnegative : 0 ≤ point) (below : magnitudeOfRank rank < 2 ^ 46)
    (rounded : RoundsTo point rank) : |point - magnitudeOfRank rank| ≤ 1 / 2 ^ 8 := by
  have finite := finite_of_small (below.trans (by norm_num))
  have upper := rounded.below_ceiling magnitudeOfRank_strictMono (Set.mem_Iic.mpr finite) le_rfl
  have above := step_le below
  rw [abs_le]
  refine ⟨?_, by linarith⟩
  cases rank with
  | zero =>
    have origin : magnitudeOfRank 0 = 0 := by simp [magnitudeOfRank, unitsOfRank_eq]
    rw [origin]
    linarith
  | succ rank =>
    have lower := rounded.above_floor magnitudeOfRank_strictMono (Set.mem_Iic.mpr (by omega)) (Nat.lt_succ_self rank)
    have beneath := step_le ((magnitudeOfRank_strictMono (Nat.lt_succ_self rank)).trans below)
    linarith

/-- Below 2⁴⁶ a cent is wider than a basin, so no two counts of hundredths share a nearest number. -/
theorem hundredths_unique {rank first second : ℕ} (below : magnitudeOfRank rank < 2 ^ 46)
    (left : RoundsTo (first / 100) rank) (right : RoundsTo (second / 100) rank) : first = second := by
  obtain ⟨firstLow, firstHigh⟩ := abs_le.mp (left.close (by positivity) below)
  obtain ⟨secondLow, secondHigh⟩ := abs_le.mp (right.close (by positivity) below)
  have less : (first : ℚ) < second + 1 := by linarith
  have more : (second : ℚ) < first + 1 := by linarith
  norm_cast at less more
  omega

/-! A rounded number and its text. -/

/-- Rounding to hundredths stays below a limit, if the last number before the limit is less than half a hundredth above
some count of hundredths and not below that count itself. -/
private theorem roundHundredths_below (shift significand bound : ℕ) {x : Binary64} {count : ℕ} {limit : ℚ}
    (binade : shift < 2046) (normal : 2 ^ 52 ≤ significand) (bounded : significand < 2 ^ 53)
    (next : (significand + 1) * (2 : ℚ) ^ ((shift : ℤ) - 1074) = limit)
    (room : 200 * (significand * (2 : ℚ) ^ ((shift : ℤ) - 1074)) < 2 * bound + 1)
    (last : (bound : ℚ) / 100 ≤ significand * 2 ^ ((shift : ℤ) - 1074))
    (nearest : Nearest (fun n : ℕ => (n : ℚ)) Set.univ (100 * magnitudeOfRank x.rank) count)
    (rounded : RoundsTo (count / 100) x.roundHundredths.rank) (below : magnitudeOfRank x.rank < limit) :
    magnitudeOfRank x.roundHundredths.rank < limit := by
  have successor := magnitudeOfRank_binade shift (significand + 1) (by omega) bounded
  rw [Nat.cast_add_one, next] at successor
  rw [← successor, magnitudeOfRank_strictMono.lt_iff_lt] at below ⊢
  rw [← magnitudeOfRank_binade shift significand (Or.inr normal) bounded.le] at room last
  have within : magnitudeOfRank x.rank ≤ magnitudeOfRank (shift * 2 ^ 52 + significand) :=
    magnitudeOfRank_strictMono.monotone (by omega)
  have counted : count ≤ bound := by
    by_contra! beyond
    have middle := nearest.above_floor Nat.strictMono_cast trivial beyond
    push_cast at middle
    linarith
  have hundredths : (count : ℚ) / 100 ≤ bound / 100 := by gcongr
  have finite : shift * 2 ^ 52 + significand ≤ infinityRank := by
    rw [infinityRank, binadeRanks]
    omega
  exact Nat.lt_succ_of_le (rounded.mono (hundredths.trans last) (roundsTo_exact finite))

section
variable {x : Binary64}

private theorem compact_zero (zero : x.rank = 0) : TwoPlaces x.compact x.negative ((0 : ℕ) / 100) := by
  have digit : number ['0'] = 0 := rfl
  have written := TwoPlaces.written x.negative (digits_toDigits 0) Nat.toDigits_ne_nil (digits_toDigits 0) (Or.inl rfl)
  rw [Nat.toDigits_zero, digit, Nat.cast_zero, zero_div, zero_add] at written
  rw [compact, signed_eq, if_pos zero, Nat.cast_zero, zero_div]
  exact written

private theorem compact_hundredths {count : ℕ} (positive : 0 < x.rank) (small : magnitudeOfRank x.rank < 10 ^ 16)
    (rounded : RoundsTo (count / 100) x.rank) : -2 ≤ x.shortest.exponent ∧ TwoPlaces x.compact x.negative x.shortest.value := by
  have finite := finite_of_small small
  have shortest := x.shortest_roundsTo positive finite
  have value : (count : ℚ) / 100 = (⟨count, -2⟩ : Decimal).value := by
    rw [Decimal.value, div_eq_mul_inv]
    norm_num
  rw [value] at rounded
  have fine : -2 ≤ x.shortest.exponent := le_shortest_exponent positive finite rounded
  have leading : x.shortest.leadingExponent < 16 :=
    (Decimal.leadingExponent_lt_iff (Decimal.coefficient_pos positive shortest)).mpr (shortest.small small)
  rw [compact, signed_eq, if_neg positive.ne']
  exact ⟨fine, Decimal.compact_twoPlaces x.negative fine leading⟩

theorem display_twoPlaces {count : ℕ} (small : magnitudeOfRank x.rank < 10 ^ 16) (rounded : RoundsTo (count / 100) x.rank) :
    ∃ shown : ℕ, RoundsTo (shown / 100) x.rank ∧ TwoPlaces x.display.toList x.negative (shown / 100) := by
  have finite := finite_of_small small
  have displayed : ∀ {magnitude}, TwoPlaces x.compact x.negative magnitude → TwoPlaces x.display.toList x.negative magnitude := by
    intro magnitude places
    rwa [display_finite finite, String.toList_ofList, widenExponent_plain places.unmarked]
  rcases Nat.eq_zero_or_pos x.rank with zero | positive
  · refine ⟨0, ?_, displayed (compact_zero zero)⟩
    rw [zero, Nat.cast_zero, zero_div]
    exact roundsTo_zero le_rfl (by positivity)
  · obtain ⟨fine, places⟩ := compact_hundredths positive small rounded
    have shortest := x.shortest_roundsTo positive finite
    obtain ⟨same, value⟩ := Decimal.exists_hundredths fine
    rw [value] at places shortest
    exact ⟨same, shortest, displayed places⟩

end

/-- A finite number below 10¹⁶ that is rounded to hundredths is written in place with one or two digits after the point.
Below 2⁴⁶ the text is exactly the count of hundredths nearest to the number, after a minus if its sign bit is set. -/
theorem display_roundHundredths (x : Binary64) (finite : x.isFinite = true) :
    (magnitudeOfRank x.rank < 10 ^ 16 → ∃ magnitude, TwoPlaces x.roundHundredths.display.toList x.negative magnitude) ∧
    (magnitudeOfRank x.rank < 2 ^ 46 → ∃ count : ℕ,
      Nearest (fun n : ℤ => (n : ℚ)) Set.univ (100 * magnitudeOfRank x.rank) (count : ℤ) ∧
      TwoPlaces x.roundHundredths.display.toList x.negative (count / 100)) := by
  obtain ⟨count, nearest, sign, rounded⟩ := x.roundHundredths_count finite
  rw [← sign]
  constructor
  · intro below
    have small := roundHundredths_below 1075 (5 * 10 ^ 15 - 1) (100 * (10 ^ 16 - 2)) (by norm_num) (by norm_num)
      (by norm_num) (by norm_num) (by norm_num) (by norm_num) nearest rounded below
    obtain ⟨_, _, places⟩ := display_twoPlaces small rounded
    exact ⟨_, places⟩
  · intro below
    have small := roundHundredths_below 1067 (2 ^ 53 - 1) (100 * 2 ^ 46 - 1) (by norm_num) (by norm_num)
      (by norm_num) (by norm_num) (by norm_num) (by norm_num) nearest rounded below
    have nonnegative : 0 ≤ 100 * magnitudeOfRank x.rank := by
      unfold magnitudeOfRank
      positivity
    obtain ⟨shown, same, places⟩ := display_twoPlaces (small.trans (by norm_num)) rounded
    obtain rfl := hundredths_unique small same rounded
    exact ⟨shown, nearest.toInt nonnegative, places⟩

/-- The number nearest to −2.675, which lies above it. -/
def almostHalfway : Binary64 := ofBits 0xc005666666666666

theorem display_roundHundredths_almostHalfway : almostHalfway.isFinite = true ∧ magnitudeOfRank almostHalfway.rank < 2 ^ 46 ∧
    (∃ magnitude, TwoPlaces almostHalfway.roundHundredths.display.toList true magnitude) ∧
    ∃ count : ℕ, Nearest (fun n : ℤ => (n : ℚ)) Set.univ (100 * magnitudeOfRank almostHalfway.rank) (count : ℤ) ∧
      TwoPlaces almostHalfway.roundHundredths.display.toList true (count / 100) := by
  have finite : almostHalfway.isFinite = true := by decide
  have rank : almostHalfway.rank = 1023 * 2 ^ 52 + 6023564501608038 := by decide
  have small : magnitudeOfRank almostHalfway.rank < 2 ^ 46 := by
    rw [rank, magnitudeOfRank_binade 1023 6023564501608038 (by norm_num) (by norm_num)]
    norm_num
  obtain ⟨places, exact⟩ := almostHalfway.display_roundHundredths finite
  exact ⟨finite, small, places (small.trans (by norm_num)), exact small⟩

example : (ofBits 0xc005666666666666).roundHundredths.display = "-2.67" := by decide +kernel

end Binary64
end TabularQuery

import GangScheduling.Proofs.Quantity.Rounding

set_option autoImplicit false

namespace GangScheduling

namespace Quantity

def word? (n : Int) : Option Int :=
  if -(maxNumerator : Int) - 1 ≤ n ∧ n ≤ maxNumerator then some n else none

def nearestWord (n : Int) : Int :=
  max (-(maxNumerator : Int) - 1) (min maxNumerator n)

def ceilDivWord? (a b : Int) : Option Int := do
  let quotient ← word? (a / b)
  if a % b = 0 then some quotient else word? (quotient + 1)

/-- The value with every step in a word of 128 bits; there is none if a step overflows. -/
def scaledWord? (quantity : Quantity) (scale : Int) : Option Int64 :=
  match (quantity.places : Int) + scale with
  | .ofNat shift =>
    match word? (10 ^ shift) with
    | some divisor => (ceilDivWord? quantity.numerator divisor).map saturate
    | none => some (saturate (if 0 < quantity.numerator then 1 else 0))
  | .negSucc shift =>
    match word? (10 ^ (shift + 1)) with
    | some factor => some (saturate (nearestWord (quantity.numerator * factor)))
    | none => some (saturate maxNumerator)

theorem cast_maxNumerator_int : (maxNumerator : Int) = 2 ^ 127 - 1 := by
  norm_num [maxNumerator]

theorem word?_power (exponent : Nat) :
    word? (10 ^ exponent) = if exponent ≤ maxPower then some (10 ^ exponent) else none := by
  have positive : (0 : Int) < 10 ^ exponent := by positivity
  rw [word?, cast_maxNumerator_int]
  split
  next fits =>
    rw [if_pos]
    by_contra large
    have most : (10 : Int) ^ 39 ≤ 10 ^ exponent :=
      pow_le_pow_right₀ (by norm_num) (not_le.mp large)
    norm_num at most
    omega
  next beyond =>
    rw [if_neg]
    intro small
    have most : (10 : Int) ^ exponent ≤ 10 ^ 38 := pow_le_pow_right₀ (by norm_num) small
    norm_num at most
    omega

theorem ceilDiv_eq_ediv {a b : Int} (positive : 0 < b) :
    ceilDiv a b = if a % b = 0 then a / b else a / b + 1 := by
  have sign : b.sign = 1 := Int.sign_eq_one_iff_pos.mpr positive
  rw [ceilDiv, Int.neg_ediv, sign]
  simp only [Int.dvd_iff_emod_eq_zero]
  split <;> omega

theorem ceilDivWord?_eq {a b : Int} (within : |a| ≤ maxNumerator) (positive : 0 < b) :
    ceilDivWord? a b = some (ceilDiv a b) := by
  obtain ⟨low, high⟩ := abs_le.mp within
  have parts := Int.mul_ediv_add_emod a b
  have rest := Int.emod_nonneg a positive.ne'
  -- A quotient is at least as close to zero, and the correction is one that the rest pays for.
  have below : -(maxNumerator : Int) ≤ a / b := by
    by_contra less
    have less := not_le.mp less
    nlinarith [Int.emod_lt_of_pos a positive]
  have above : a / b + (if a % b = 0 then 0 else 1) ≤ maxNumerator := by
    by_cases negative : a / b < 0
    next => split <;> omega
    next =>
      have smaller : a / b ≤ b * (a / b) := by nlinarith
      split <;> omega
  have quotient : word? (a / b) = some (a / b) := by
    rw [word?, if_pos]
    split at above <;> omega
  simp only [ceilDivWord?, quotient, Option.bind_eq_bind, Option.bind_some, ceilDiv_eq_ediv positive]
  by_cases whole : a % b = 0
  next => simp only [whole, if_true]
  next =>
    rw [if_neg whole] at above
    simp only [whole, if_false]
    rw [word?, if_pos]
    omega

theorem saturate_nearestWord (n : Int) : saturate (nearestWord n) = saturate n := by
  apply Int64.toInt_inj.mp
  rw [toInt_saturate_eq, toInt_saturate_eq, nearestWord, cast_maxNumerator_int]
  omega

variable {quantity : Quantity}

theorem scaledWord?_eq (parsed : quantity.Parsed) (scale : Int) :
    quantity.scaledWord? scale = some (quantity.scaledValue scale) := by
  cases shifted : (quantity.places : Int) + scale with
  | ofNat shift =>
    simp only [scaledWord?, scaledValue, shifted, word?_power]
    by_cases small : shift ≤ maxPower
    next =>
      have divided := ceilDivWord?_eq (b := 10 ^ shift) (abs_numerator_le parsed) (by positivity)
      simp [small, divided]
    next =>
      simp only [small, if_false]
      split
      next => exact congrArg some (by decide : saturate 1 = 1)
      next => exact congrArg some (by decide : saturate 0 = 0)
  | negSucc shift =>
    simp only [scaledWord?, scaledValue, shifted, word?_power]
    by_cases small : shift + 1 ≤ maxPower
    next => simp [small, saturate_nearestWord]
    next =>
      simp only [small, if_false]
      rw [saturate_of_le (by rw [toInt_maxValue, cast_maxNumerator_int]; norm_num)]

theorem toRat_pos_iff : 0 < quantity.toRat ↔ 0 < quantity.numerator := by
  have power : (0 : ℚ) < 10 ^ quantity.places := by positivity
  rw [toRat, div_pos_iff_of_pos_right power, Int.cast_pos]

theorem scaledValue_of_small {scale : Int} (small : quantity.places + scale < -38) :
    quantity.scaledValue scale = Int64.maxValue := by
  unfold scaledValue
  split
  next shift same =>
    rw [same] at small
    simp at small
    omega
  next shift same =>
    rw [if_neg]
    rw [same] at small
    simp only [maxPower]
    omega

/-- The value is the quantity in the unit, rounded up and then to the nearest number of 64 bits,
unless the unit is too small and the quantity is not positive. -/
theorem scaledValue_exact_iff (parsed : quantity.Parsed) (scale : Int) :
    quantity.scaledWord? scale = some (quantity.scaledValue scale) ∧
    ((quantity.scaledValue scale).toInt =
        max (-2 ^ 63) (min (2 ^ 63 - 1) ⌈quantity.toRat / 10 ^ scale⌉) ↔
      -38 ≤ quantity.places + scale ∨ 0 < quantity.toRat) ∧
    (quantity.places + scale < -38 → quantity.scaledValue scale = Int64.maxValue) := by
  refine ⟨scaledWord?_eq parsed scale, ?_, scaledValue_of_small⟩
  rw [toRat_pos_iff]
  constructor
  next =>
    intro exact
    by_contra unsound
    obtain ⟨small, notPositive⟩ := not_or.mp unsound
    rw [scaledValue_of_small (not_le.mp small), toInt_maxValue] at exact
    have ceiling : ⌈quantity.toRat / 10 ^ scale⌉ ≤ 0 := by
      have nonpos : quantity.toRat ≤ 0 := not_lt.mp (mt toRat_pos_iff.mp notPositive)
      rw [Int.ceil_le, Int.cast_zero]
      exact div_nonpos_of_nonpos_of_nonneg nonpos (zpow_nonneg (by norm_num) scale)
    omega
  next =>
    intro sound
    rw [scaledValue_eq parsed sound, toInt_saturate_eq]

def debt : Quantity := { text := "-1.5Ki", numerator := -15360, places := 1 }

theorem scaledValue_exact_iff_debt :
    debt.Parsed ∧ (debt.scaledValue 3).toInt =
        max (-2 ^ 63) (min (2 ^ 63 - 1) ⌈debt.toRat / 10 ^ (3 : Int)⌉) ∧
      debt.scaledValue 3 = -1 := by
  have parsed : debt.Parsed := ⟨"-1.5Ki", by decide⟩
  obtain ⟨-, exact, -⟩ := scaledValue_exact_iff parsed 3
  exact ⟨parsed, exact.mpr (.inl (by decide)), by decide⟩

theorem small_unit_saturates_upwards :
    (∃ zero, parse "0" = .ok zero ∧ zero.toRat = 0 ∧ zero.scaledValue (-39) = Int64.maxValue ∧
      max (-2 ^ 63) (min (2 ^ 63 - 1) ⌈zero.toRat / 10 ^ (-39 : Int)⌉) = 0) ∧
    ∃ minusOne, parse "-1" = .ok minusOne ∧ minusOne.toRat = -1 ∧
      minusOne.scaledValue (-39) = Int64.maxValue := by
  constructor
  next =>
    refine ⟨{ text := "0", numerator := 0, places := 0 }, by decide, ?_, by decide, ?_⟩ <;>
      norm_num [toRat]
  next =>
    refine ⟨{ text := "-1", numerator := -1, places := 0 }, by decide, ?_, by decide⟩
    norm_num [toRat]

end Quantity

end GangScheduling

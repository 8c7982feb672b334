import GangScheduling.Proofs.Quantity.Parse
import GangScheduling.Proofs.Saturation
import Mathlib.Data.Rat.Floor

set_option autoImplicit false

namespace GangScheduling

namespace Quantity

/-- Quantities come from texts only. -/
def Parsed (quantity : Quantity) : Prop :=
  ∃ text, parse text = .ok quantity

theorem Parsed.reparse {quantity : Quantity} (parsed : quantity.Parsed) :
    parse quantity.text = .ok quantity := by
  obtain ⟨text, read⟩ := parsed
  rw [parse_ok_iff] at read ⊢
  rw [text_of_ofTrimmed? read, String.toList_ofList, Text.trim_trim, read]

theorem le_maxNumerator_of_magnitude? {text : List Char} {size places : Nat}
    (h : magnitude? text = some (size, places)) : size ≤ maxNumerator := by
  simp only [magnitude?, Option.bind_eq_bind, Option.bind_eq_some_iff] at h
  obtain ⟨⟨digits, before⟩, read, scaling, -, scaled⟩ := h
  have digitsFit := ((Text.readDigits_ok_iff _).mp (Numeral.readDigits_of_mantissa? read)).2.2
  cases scaling with
  | multiply factor =>
    obtain ⟨within, same⟩ := Option.ite_none_right_eq_some.mp scaled
    cases same
    exact within
  | divide more =>
    obtain ⟨-, same⟩ := Option.ite_none_right_eq_some.mp scaled
    cases same
    exact digitsFit

theorem abs_numerator_le {quantity : Quantity} (parsed : quantity.Parsed) :
    |quantity.numerator| ≤ maxNumerator := by
  obtain ⟨text, read⟩ := parsed
  have trimmed := parse_ok_iff.mp read
  obtain ⟨n, spelled⟩ := Numeral.exists_of_ofTrimmed? trimmed
  rw [← spelled, n.ofTrimmed?_text] at trimmed
  obtain ⟨⟨size, places⟩, sized, rfl⟩ := Option.map_eq_some_iff.mp trimmed
  have within := le_maxNumerator_of_magnitude? sized
  cases n.sign <;> simpa [Text.Sign.factor] using within

theorem ceilDiv_eq (a : Int) (b : Nat) : ceilDiv a b = ⌈(a : ℚ) / b⌉ :=
  (Rat.ceil_intCast_div_natCast a b).symm

theorem ceil_div_of_abs_lt {a : Int} {b : Nat} (small : |a| < b) :
    ⌈(a : ℚ) / b⌉ = if 0 < a then 1 else 0 := by
  obtain ⟨below, above⟩ := abs_lt.mp small
  have below : -(b : ℚ) < a := by exact_mod_cast below
  have above : (a : ℚ) < b := by exact_mod_cast above
  have positive : (0 : ℚ) < b := by linarith
  rw [Int.ceil_eq_iff]
  split
  next some =>
    have some : (0 : ℚ) < a := by exact_mod_cast some
    constructor
    next => simpa using div_pos some positive
    next => simpa using (div_le_one positive).mpr above.le
  next none =>
    have none : (a : ℚ) ≤ 0 := by exact_mod_cast not_lt.mp none
    constructor
    next =>
      rw [lt_div_iff₀ positive]
      push_cast
      linarith
    next => simpa using div_nonpos_of_nonpos_of_nonneg none positive.le

theorem toRat_div (quantity : Quantity) (scale : Int) :
    quantity.toRat / 10 ^ scale = quantity.numerator / 10 ^ (quantity.places + scale) := by
  rw [toRat, zpow_add₀ (by norm_num), zpow_natCast, div_div]

theorem maxNumerator_lt {power : Nat} (large : maxPower < power) : maxNumerator < 10 ^ power :=
  calc maxNumerator < 10 ^ 39 := by norm_num [maxNumerator]
    _ ≤ 10 ^ power := Nat.pow_le_pow_right (by decide) large

variable {quantity : Quantity} {scale : Int} {shift : Nat}

theorem scaledValue_coarse (parsed : quantity.Parsed)
    (shifted : quantity.places + scale = Int.ofNat shift) :
    quantity.scaledValue scale = saturate ⌈(quantity.numerator : ℚ) / (10 ^ shift : Nat)⌉ := by
  rw [scaledValue, shifted]
  dsimp only
  split
  next => exact congrArg saturate (ceilDiv_eq _ _)
  next large =>
    have small : |quantity.numerator| < (10 ^ shift : Nat) :=
      lt_of_le_of_lt (abs_numerator_le parsed)
        (by exact_mod_cast maxNumerator_lt (not_le.mp large))
    rw [ceil_div_of_abs_lt small]
    split <;> decide

theorem scaledValue_fine (shifted : quantity.places + scale = Int.negSucc shift)
    (sound : shift + 1 ≤ maxPower ∨ 0 < quantity.numerator) :
    quantity.scaledValue scale = saturate (quantity.numerator * (10 ^ (shift + 1) : Nat)) := by
  rw [scaledValue, shifted]
  dsimp only
  split
  next => rfl
  next large =>
    have power : (2 ^ 63 : Int) ≤ (10 ^ (shift + 1) : Nat) := by
      have small : 2 ^ 63 ≤ 10 ^ 39 := by norm_num
      exact_mod_cast small.trans (Nat.pow_le_pow_right (by decide) (not_le.mp large))
    refine (saturate_of_le ?_).symm
    calc Int64.maxValue.toInt ≤ 2 ^ 63 := by decide
      _ ≤ (10 ^ (shift + 1) : Nat) := power
      _ ≤ quantity.numerator * (10 ^ (shift + 1) : Nat) :=
        le_mul_of_one_le_left (Int.natCast_nonneg _) (sound.resolve_left large)

theorem scaledValue_eq (parsed : quantity.Parsed)
    (sound : -38 ≤ quantity.places + scale ∨ 0 < quantity.numerator) :
    quantity.scaledValue scale = saturate ⌈quantity.toRat / 10 ^ scale⌉ := by
  rw [toRat_div]
  cases shifted : quantity.places + scale with
  | ofNat shift =>
    have power : (10 : ℚ) ^ Int.ofNat shift = (10 ^ shift : Nat) := by simp
    rw [power, scaledValue_coarse parsed shifted]
  | negSucc shift =>
    have whole : (quantity.numerator : ℚ) / 10 ^ Int.negSucc shift =
        (quantity.numerator * (10 ^ (shift + 1) : Nat) : Int) := by
      rw [zpow_negSucc, div_inv_eq_mul]
      push_cast
      rfl
    have room : shift + 1 ≤ maxPower ∨ 0 < quantity.numerator :=
      sound.imp_left fun low => by rw [maxPower]; omega
    rw [whole, Int.ceil_intCast, scaledValue_fine shifted room]

end Quantity

end GangScheduling

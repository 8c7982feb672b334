import GangScheduling.Saturation
import Mathlib.Algebra.Order.Ring.Int
import Mathlib.Tactic.Linarith

set_option autoImplicit false

namespace GangScheduling

theorem toInt_maxValue : Int64.maxValue.toInt = 2 ^ 63 - 1 := by decide

theorem toInt_minValue : Int64.minValue.toInt = -2 ^ 63 := by decide

theorem toInt_saturate_eq (n : Int) : (saturate n).toInt = max (-2 ^ 63) (min (2 ^ 63 - 1) n) := by
  rw [toInt_saturate, toInt_maxValue, toInt_minValue]

theorem toInt_saturate_of_nonneg {n : Int} (nonneg : 0 ≤ n) :
    (saturate n).toInt = min Int64.maxValue.toInt n := by
  rw [toInt_saturate, toInt_maxValue, toInt_minValue]
  omega

theorem saturate_of_le {n : Int} (large : Int64.maxValue.toInt ≤ n) :
    saturate n = Int64.maxValue := by
  apply Int64.toInt_inj.mp
  rw [toInt_saturate]
  rw [toInt_maxValue] at large ⊢
  rw [toInt_minValue]
  omega

theorem saturate_of_ge {n : Int} (small : n ≤ Int64.minValue.toInt) :
    saturate n = Int64.minValue := by
  apply Int64.toInt_inj.mp
  rw [toInt_saturate]
  rw [toInt_minValue] at small ⊢
  rw [toInt_maxValue]
  omega

theorem saturate_nonneg {n : Int} (nonneg : 0 ≤ n) : 0 ≤ (saturate n).toInt := by
  rw [toInt_saturate_of_nonneg nonneg, toInt_maxValue]
  omega

theorem le_saturatingAdd {a b : Int64} (nonneg : 0 ≤ b.toInt) :
    a.toInt ≤ (saturatingAdd a b).toInt := by
  have bound := a.toInt_le
  rw [toInt_saturatingAdd]
  omega

theorem saturate_saturate_add {a b : Int} (first : 0 ≤ a) (second : 0 ≤ b) :
    saturate ((saturate a).toInt + b) = saturate (a + b) := by
  apply Int64.toInt_inj.mp
  have sum := saturate_nonneg first
  rw [toInt_saturate_of_nonneg (Int.add_nonneg sum second),
    toInt_saturate_of_nonneg (Int.add_nonneg first second), toInt_saturate_of_nonneg first]
  omega

theorem saturate_add_saturate {a b : Int} (first : 0 ≤ a) (second : 0 ≤ b) :
    saturate (a + (saturate b).toInt) = saturate (a + b) := by
  rw [add_comm, saturate_saturate_add second first, add_comm]

theorem saturatingMul_saturate (members : UInt32) (n : Int) :
    saturatingMul (Int64.ofInt members.toNat) (saturate n) = saturate (members.toNat * n) := by
  have count : (Int64.ofInt members.toNat).toInt = members.toNat := by
    have bound := members.toNat_lt
    rw [Int64.toInt_ofInt_of_le] <;> omega
  rw [saturatingMul, count, toInt_saturate_eq]
  cases Nat.eq_zero_or_pos members.toNat with
  | inl none => simp [none]
  | inr some =>
    -- A bound that is multiplied by at least one is still beyond the range, on its side.
    by_cases high : 2 ^ 63 - 1 < n
    next =>
      have bound : max (-2 ^ 63 : Int) (min (2 ^ 63 - 1) n) = 2 ^ 63 - 1 := by omega
      rw [bound, saturate_of_le (by rw [toInt_maxValue]; nlinarith),
        saturate_of_le (by rw [toInt_maxValue]; nlinarith)]
    by_cases low : n < -2 ^ 63
    next =>
      have bound : max (-2 ^ 63 : Int) (min (2 ^ 63 - 1) n) = -2 ^ 63 := by omega
      rw [bound, saturate_of_ge (by rw [toInt_minValue]; nlinarith),
        saturate_of_ge (by rw [toInt_minValue]; nlinarith)]
    have within : max (-2 ^ 63 : Int) (min (2 ^ 63 - 1) n) = n := by omega
    rw [within]

end GangScheduling

set_option autoImplicit false

namespace GangScheduling

def saturate (n : Int) : Int64 :=
  Int64.ofInt (max Int64.minValue.toInt (min Int64.maxValue.toInt n))

def saturatingAdd (a b : Int64) : Int64 :=
  saturate (a.toInt + b.toInt)

def saturatingMul (a b : Int64) : Int64 :=
  saturate (a.toInt * b.toInt)

theorem toInt_saturate (n : Int) :
    (saturate n).toInt = max Int64.minValue.toInt (min Int64.maxValue.toInt n) := by
  have low : Int64.minValue.toInt = -9223372036854775808 := by decide
  have high : Int64.maxValue.toInt = 9223372036854775807 := by decide
  rw [saturate, low, high, Int64.toInt_ofInt_of_le (by omega) (by omega)]

theorem saturate_toInt (a : Int64) : saturate a.toInt = a := by
  have low := a.minValue_le_toInt
  have high := a.toInt_le
  apply Int64.toInt_inj.mp
  rw [toInt_saturate]
  omega

theorem toInt_saturatingAdd (a b : Int64) :
    (saturatingAdd a b).toInt =
      max Int64.minValue.toInt (min Int64.maxValue.toInt (a.toInt + b.toInt)) :=
  toInt_saturate _

end GangScheduling

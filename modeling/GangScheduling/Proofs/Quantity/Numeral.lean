import GangScheduling.Proofs.Text.Decimal
import GangScheduling.Quantity
import Mathlib.Algebra.Order.Field.Rat
import Mathlib.Tactic.FieldSimp
import Mathlib.Tactic.NormNum
import Mathlib.Tactic.Ring

set_option autoImplicit false

namespace GangScheduling

namespace Quantity

def toRat (quantity : Quantity) : ℚ :=
  quantity.numerator / 10 ^ quantity.places

def symbols : List (List Char × ℚ) :=
  [([], 1),
   (['K', 'i'], 2 ^ 10), (['M', 'i'], 2 ^ 20), (['G', 'i'], 2 ^ 30), (['T', 'i'], 2 ^ 40),
   (['P', 'i'], 2 ^ 50), (['E', 'i'], 2 ^ 60),
   (['n'], 1 / 10 ^ 9), (['u'], 1 / 10 ^ 6), (['m'], 1 / 10 ^ 3),
   (['k'], 10 ^ 3), (['M'], 10 ^ 6), (['G'], 10 ^ 9), (['T'], 10 ^ 12), (['P'], 10 ^ 15),
   (['E'], 10 ^ 18)]

inductive Suffix : List Char → ℚ → Prop
  | symbol (chars : List Char) (factor : ℚ) (known : (chars, factor) ∈ symbols) :
      Suffix chars factor
  | exponent (mark : Char) (marked : mark = 'e' ∨ mark = 'E') (sign : Text.Sign)
      (digits : List Char) (digital : Text.Digital digits) (power : Int)
      (read : power = sign.factor * Nat.ofDigitChars 10 digits 0)
      (least : -2 ^ 31 ≤ power) (most : power ≤ 38) :
      Suffix (mark :: (sign.chars ++ digits)) (10 ^ power)

structure Numeral where
  sign : Text.Sign
  whole : List Char
  -- The digits behind the point, if there is a point.
  point : Option (List Char)
  suffix : List Char
  factor : ℚ
  digital : Text.Digital (whole ++ point.getD [])
  known : Suffix suffix factor

namespace Numeral

def fraction (n : Numeral) : List Char :=
  n.point.getD []

def number (n : Numeral) : List Char :=
  n.whole ++ n.point.elim [] ('.' :: ·)

def text (n : Numeral) : List Char :=
  n.sign.chars ++ (n.number ++ n.suffix)

def value (n : Numeral) : ℚ :=
  n.sign.factor *
    (Nat.ofDigitChars 10 n.whole 0 +
      (Nat.ofDigitChars 10 n.fraction 0 : ℚ) / 10 ^ n.fraction.length) * n.factor

def mantissa (n : Numeral) : Nat :=
  Nat.ofDigitChars 10 (n.whole ++ n.fraction) 0

def Fits (n : Numeral) : Prop :=
  n.mantissa ≤ 2 ^ 127 - 1 ∧ n.mantissa * n.factor ≤ 2 ^ 127 - 1

theorem value_eq (n : Numeral) :
    n.value = n.sign.factor * (n.mantissa / 10 ^ n.fraction.length * n.factor) := by
  have joined : (n.mantissa : ℚ) =
      10 ^ n.fraction.length * Nat.ofDigitChars 10 n.whole 0 +
        Nat.ofDigitChars 10 n.fraction 0 := by
    rw [mantissa, Nat.ofDigitChars_append, Nat.ofDigitChars_eq_ofDigitChars_zero]
    push_cast
    rfl
  rw [value, joined]
  field_simp

end Numeral

namespace Scaling

def factor : Scaling → ℚ
  | .multiply n => n
  | .divide places => 1 / 10 ^ places

def extra : Scaling → Nat
  | .multiply _ => 0
  | .divide places => places

def ofPower : Int → Scaling
  | .ofNat power => .multiply (10 ^ power)
  | .negSucc power => .divide (power + 1)

theorem factor_ofPower (power : Int) : (ofPower power).factor = 10 ^ power := by
  cases power with
  | ofNat power => simp [ofPower, factor]
  | negSucc power => simp [ofPower, factor, zpow_negSucc]

end Scaling

theorem exponent?_eq_some_iff {digits : List Char} {scaling : Scaling} :
    exponent? digits = some scaling ↔
      ∃ power, Text.readInteger maxExponent digits = .ok power ∧ power ≤ 38 ∧
        scaling = .ofPower power := by
  unfold exponent?
  split
  next power read =>
    simp only [read, Except.ok.injEq, exists_eq_left', Option.ite_none_right_eq_some,
      Option.some.injEq]
    exact and_congr (Int.ofNat_le (n := 38)).symm eq_comm
  next power read =>
    have below : Int.negSucc power ≤ 38 := by omega
    simp only [read, Except.ok.injEq, exists_eq_left', below, true_and, Option.some.injEq]
    exact eq_comm
  next fault read => simp [read]

theorem mem_symbols_of_unit? {suffix : List Char} {scaling : Scaling}
    (h : unit? suffix = some scaling) :
    (suffix, scaling.factor) ∈ symbols ∧ scaling.extra ≤ 9 := by
  unfold unit? at h
  split at h
  all_goals cases h
  all_goals norm_num [symbols, Scaling.factor, Scaling.extra]

theorem unit?_of_mem_symbols {suffix : List Char} {factor : ℚ} (h : (suffix, factor) ∈ symbols) :
    ∃ scaling, unit? suffix = some scaling ∧ scaling.factor = factor := by
  have table : ∀ entry ∈ symbols,
      ∃ scaling, unit? entry.1 = some scaling ∧ scaling.factor = entry.2 := by
    simp only [symbols, List.forall_mem_cons]
    refine ⟨?_, ?_, ?_, ?_, ?_, ?_, ?_, ?_, ?_, ?_, ?_, ?_, ?_, ?_, ?_, ?_, by simp⟩
    all_goals exact ⟨_, rfl, by norm_num [Scaling.factor]⟩
  exact table _ h

theorem not_isDigit_of_mem_symbols {suffix : List Char} {factor : ℚ}
    (h : (suffix, factor) ∈ symbols) : ∀ c ∈ suffix, c.isDigit = false ∧ c ≠ '.' := by
  have table : ∀ entry ∈ symbols, ∀ c ∈ entry.1, c.isDigit = false ∧ c ≠ '.' := by
    simp [symbols]
  exact table _ h

theorem scaling?_of_suffix {suffix : List Char} {factor : ℚ} (h : Suffix suffix factor) :
    ∃ scaling, scaling? suffix = some scaling ∧ scaling.factor = factor := by
  cases h with
  | symbol _ _ known =>
    obtain ⟨scaling, found, same⟩ := unit?_of_mem_symbols known
    exact ⟨scaling, by unfold scaling?; rw [found], same⟩
  | exponent mark marked sign digits digital power read least most =>
    -- No symbol has a digit in it.
    have noSymbol : unit? (mark :: (sign.chars ++ digits)) = none := by
      cases found : unit? (mark :: (sign.chars ++ digits)) with
      | none => rfl
      | some scaling =>
        have plain := not_isDigit_of_mem_symbols (mem_symbols_of_unit? found).1
        obtain ⟨c, member⟩ := List.exists_mem_of_ne_nil _ digital.1
        have digit := digital.2 c member
        rw [(plain c (by simp [member])).1] at digit
        cases digit
    have value : exponent? (sign.chars ++ digits) = some (.ofPower power) := by
      rw [exponent?_eq_some_iff]
      refine ⟨power, ?_, most, rfl⟩
      rw [Text.readInteger_ok_iff]
      refine ⟨sign, digits, rfl, digital, read, ?_, ?_⟩ <;> simp [maxExponent] <;> omega
    refine ⟨.ofPower power, ?_, Scaling.factor_ofPower power⟩
    unfold scaling?
    rw [noSymbol]
    simp [marked, digital.1, value]

theorem scaling?_cases {suffix : List Char} {scaling : Scaling}
    (h : scaling? suffix = some scaling) :
    unit? suffix = some scaling ∨
      ∃ power, scaling = .ofPower power ∧ -2 ^ 31 ≤ power ∧ Suffix suffix (10 ^ power) := by
  unfold scaling? at h
  split at h
  next found =>
    cases h
    exact .inl found
  next mark digits none =>
    split at h
    next marked =>
      obtain ⟨power, read, most, rfl⟩ := exponent?_eq_some_iff.mp h
      obtain ⟨sign, rest, rfl, digital, value, least, -⟩ := Text.readInteger_ok_iff.mp read
      have least : -2 ^ 31 ≤ power := by simpa [maxExponent] using least
      exact .inr ⟨power, rfl, least, .exponent mark marked.1 sign rest digital power value least most⟩
    next => cases h
  next => cases h

theorem suffix_of_scaling? {suffix : List Char} {scaling : Scaling}
    (h : scaling? suffix = some scaling) : Suffix suffix scaling.factor := by
  cases scaling?_cases h with
  | inl found => exact .symbol _ _ (mem_symbols_of_unit? found).1
  | inr power =>
    obtain ⟨power, rfl, -, suffix⟩ := power
    rwa [Scaling.factor_ofPower]

theorem extra_le_of_scaling? {suffix : List Char} {scaling : Scaling}
    (h : scaling? suffix = some scaling) : scaling.extra ≤ 2 ^ 31 := by
  cases scaling?_cases h with
  | inl found => exact (mem_symbols_of_unit? found).2.trans (by decide)
  | inr power =>
    obtain ⟨power, rfl, least, -⟩ := power
    cases power with
    | ofNat power => simp [Scaling.ofPower, Scaling.extra]
    | negSucc power =>
      simp only [Scaling.ofPower, Scaling.extra]
      omega

end Quantity

end GangScheduling

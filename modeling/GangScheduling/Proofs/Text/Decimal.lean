import GangScheduling.Text.Decimal

set_option autoImplicit false

namespace GangScheduling.Text

inductive Sign
  | absent
  | plus
  | minus
deriving DecidableEq, Repr

def Sign.chars : Sign → List Char
  | .absent => []
  | .plus => ['+']
  | .minus => ['-']

def Sign.factor : Sign → Int
  | .absent | .plus => 1
  | .minus => -1

def Digital (text : List Char) : Prop :=
  text ≠ [] ∧ ∀ c ∈ text, c.isDigit = true

instance : DecidablePred Digital := fun text =>
  decidable_of_iff (text ≠ [] ∧ text.all Char.isDigit = true) (by rw [Digital, List.all_eq_true])

theorem digit?_eq (c : Char) :
    digit? c = if c.isDigit = true then some (c.toNat - '0'.toNat) else none :=
  rfl

theorem isDigit_eq (c : Char) : isDigit c = c.isDigit := by
  by_cases h : c.isDigit = true <;> simp [isDigit, digit?_eq, h]

theorem le_ofDigitChars (digits : List Char) (read : Nat) : read ≤ Nat.ofDigitChars 10 digits read := by
  rw [Nat.ofDigitChars_eq_ofDigitChars_zero]
  have positive : 0 < 10 ^ digits.length := Nat.pow_pos (by decide)
  exact Nat.le_add_right_of_le (Nat.le_mul_of_pos_left read positive)

theorem extendDigits_ok_iff {limit read n : Nat} (within : read ≤ limit) (text : List Char) :
    extendDigits limit read text = .ok n ↔
      (∀ c ∈ text, c.isDigit = true) ∧ Nat.ofDigitChars 10 text read = n ∧ n ≤ limit := by
  induction text generalizing read with
  | nil =>
    simp only [extendDigits, Except.ok.injEq, Nat.ofDigitChars_nil, List.not_mem_nil]
    constructor
    next => rintro rfl; exact ⟨by simp, rfl, within⟩
    next => exact fun h => h.2.1
  | cons c rest ih =>
    rw [extendDigits, digit?_eq, Nat.ofDigitChars_cons]
    by_cases digit : c.isDigit = true
    next =>
      simp only [digit, if_true, List.forall_mem_cons, true_and]
      split
      next fits => exact ih fits
      next beyond =>
        have more := le_ofDigitChars rest (10 * read + (c.toNat - '0'.toNat))
        constructor
        next => intro h; cases h
        next => omega
    next => simp [digit]

theorem readDigits_ok_iff {limit n : Nat} (text : List Char) :
    readDigits limit text = .ok n ↔
      Digital text ∧ Nat.ofDigitChars 10 text 0 = n ∧ n ≤ limit := by
  cases text with
  | nil => simp [readDigits, Digital]
  | cons c rest =>
    have whole : readDigits limit (c :: rest) = extendDigits limit 0 (c :: rest) := rfl
    rw [whole, extendDigits_ok_iff (Nat.zero_le limit)]
    simp [Digital]

theorem Digital.ne_sign {digits : List Char} (digital : Digital digits) :
    ∃ c rest, digits = c :: rest ∧ c ≠ '-' ∧ c ≠ '+' := by
  obtain ⟨some, all⟩ := digital
  obtain ⟨c, rest, rfl⟩ := List.exists_cons_of_ne_nil some
  have digit := all c List.mem_cons_self
  refine ⟨c, rest, rfl, ?_, ?_⟩ <;> rintro rfl <;> cases digit

def Sign.limit (sign : Sign) (limit : Nat) : Nat :=
  if sign = .minus then limit + 1 else limit

theorem map_readDigits (limit : Nat) (digits : List Char) (sign : Int → Int) :
    Except.map sign (do let n ← readDigits limit digits; pure (n : Int)) =
      match readDigits limit digits with
      | .ok n => .ok (sign n)
      | .error fault => .error fault := by
  cases readDigits limit digits <;> rfl

theorem readInteger_chars (limit : Nat) (sign : Sign) {digits : List Char}
    (digital : Digital digits) :
    readInteger limit (sign.chars ++ digits) =
      match readDigits (sign.limit limit) digits with
      | .ok n => .ok (sign.factor * n)
      | .error fault => .error fault := by
  cases sign with
  | minus =>
    simp only [Sign.factor, Int.neg_mul, Int.one_mul]
    exact map_readDigits (limit + 1) digits _
  | plus =>
    simp only [Sign.factor, Int.one_mul]
    exact map_readDigits limit digits _
  | absent =>
    obtain ⟨c, rest, rfl, notMinus, notPlus⟩ := digital.ne_sign
    have natural : readNatural limit (c :: rest) = readDigits limit (c :: rest) := by
      simp [readNatural, notPlus]
    simp only [Sign.factor, Int.one_mul, Sign.chars, List.nil_append]
    unfold readInteger
    split
    next same => exact absurd (List.cons.inj same).1 notMinus
    next => rw [natural]; exact map_readDigits limit (c :: rest) _

def unsigned : List Char → List Char
  | '+' :: digits => digits
  | text => text

theorem unsigned_of_ne {c : Char} (notPlus : c ≠ '+') (rest : List Char) :
    unsigned (c :: rest) = c :: rest := by
  simp [unsigned, notPlus]

theorem unsigned_of_digital {digits : List Char} (digital : Digital digits) :
    unsigned digits = digits := by
  obtain ⟨c, rest, rfl, -, notPlus⟩ := digital.ne_sign
  exact unsigned_of_ne notPlus rest

theorem readNatural_ok_iff {limit n : Nat} (text : List Char) :
    readNatural limit text = .ok n ↔
      Digital (unsigned text) ∧ Nat.ofDigitChars 10 (unsigned text) 0 = n ∧ n ≤ limit := by
  cases text with
  | nil => simp [readNatural, unsigned, Digital]
  | cons c rest =>
    by_cases plus : c = '+'
    next =>
      subst plus
      exact readDigits_ok_iff rest
    next =>
      have whole : readNatural limit (c :: rest) = readDigits limit (c :: rest) := by
        simp [readNatural, plus]
      rw [whole, unsigned_of_ne plus, readDigits_ok_iff]

theorem signed_of_readInteger {limit : Nat} {text : List Char} {value : Int}
    (h : readInteger limit text = .ok value) :
    ∃ (sign : Sign) (digits : List Char), text = sign.chars ++ digits ∧ Digital digits := by
  have digital {limit : Nat} {digits : List Char} {sign : Int → Int}
      (h : Except.map sign (do let n ← readDigits limit digits; pure (n : Int)) = .ok value) :
      Digital digits := by
    rw [map_readDigits] at h
    split at h
    next n read => exact ((readDigits_ok_iff digits).mp read).1
    next => cases h
  unfold readInteger at h
  split at h
  next digits => exact ⟨.minus, digits, rfl, digital h⟩
  next =>
    unfold readNatural at h
    split at h
    next => cases h
    next digits _ => exact ⟨.plus, digits, rfl, digital h⟩
    next => exact ⟨.absent, text, rfl, digital h⟩

theorem readInteger_ok_iff {limit : Nat} {text : List Char} {value : Int} :
    readInteger limit text = .ok value ↔
      ∃ (sign : Sign) (digits : List Char), text = sign.chars ++ digits ∧ Digital digits ∧
        value = sign.factor * Nat.ofDigitChars 10 digits 0 ∧
        -(limit : Int) - 1 ≤ value ∧ value ≤ limit := by
  have read (sign : Sign) {digits : List Char} (digital : Digital digits) :
      readInteger limit (sign.chars ++ digits) = .ok value ↔
        value = sign.factor * Nat.ofDigitChars 10 digits 0 ∧
          -(limit : Int) - 1 ≤ value ∧ value ≤ limit := by
    rw [readInteger_chars limit sign digital]
    have range : Nat.ofDigitChars 10 digits 0 ≤ sign.limit limit ↔
        -(limit : Int) - 1 ≤ sign.factor * Nat.ofDigitChars 10 digits 0 ∧
          sign.factor * Nat.ofDigitChars 10 digits 0 ≤ limit := by
      cases sign <;> simp [Sign.factor, Sign.limit] <;> omega
    split
    next n given =>
      obtain ⟨-, rfl, fits⟩ := (readDigits_ok_iff digits).mp given
      simp only [Except.ok.injEq]
      constructor
      next => rintro rfl; exact ⟨rfl, range.mp fits⟩
      next => exact fun h => h.1.symm
    next fault refused =>
      constructor
      next => intro h; cases h
      next =>
        rintro ⟨rfl, fits⟩
        have given := (readDigits_ok_iff digits).mpr ⟨digital, rfl, range.mpr fits⟩
        rw [refused] at given
        cases given
  constructor
  next =>
    intro h
    obtain ⟨sign, digits, rfl, digital⟩ := signed_of_readInteger h
    exact ⟨sign, digits, rfl, digital, (read sign digital).mp h⟩
  next =>
    rintro ⟨sign, digits, rfl, digital, h⟩
    exact (read sign digital).mpr h

end GangScheduling.Text

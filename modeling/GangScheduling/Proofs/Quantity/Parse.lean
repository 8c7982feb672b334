import GangScheduling.Proofs.Quantity.Numeral
import GangScheduling.Proofs.Text.Blank
import Mathlib.Algebra.Order.Field.Basic

set_option autoImplicit false

namespace GangScheduling

namespace Quantity

theorem isNumberChar_eq (c : Char) : isNumberChar c = (c.isDigit || c = '.') := by
  rw [isNumberChar, Text.isDigit_eq]

theorem takeWhile_suffix {suffix : List Char} {factor : ℚ} (known : Suffix suffix factor) :
    suffix.takeWhile isNumberChar = [] ∧ suffix.dropWhile isNumberChar = suffix := by
  have first : ∀ c rest, suffix = c :: rest → isNumberChar c = false := by
    rintro c rest rfl
    rw [isNumberChar_eq]
    cases known with
    | symbol _ _ listed =>
      obtain ⟨digit, point⟩ := not_isDigit_of_mem_symbols listed c List.mem_cons_self
      simp [digit, point]
    | exponent mark marked => rcases marked with rfl | rfl <;> decide
  cases suffix with
  | nil => exact ⟨rfl, rfl⟩
  | cons c rest => simp [first c rest rfl]

namespace Numeral

variable (n : Numeral)

theorem digit_of_mem_whole {c : Char} (member : c ∈ n.whole) : c.isDigit = true :=
  n.digital.2 c (List.mem_append_left _ member)

theorem digit_of_mem_fraction {c : Char} (member : c ∈ n.fraction) : c.isDigit = true :=
  n.digital.2 c (List.mem_append_right _ member)

theorem isNumberChar_of_mem {c : Char} (member : c ∈ n.number) : isNumberChar c = true := by
  rw [isNumberChar_eq]
  cases List.mem_append.mp member with
  | inl whole => simp [n.digit_of_mem_whole whole]
  | inr behind =>
    cases point : n.point with
    | none => simp [point] at behind
    | some fraction =>
      have digits := fun c => n.digit_of_mem_fraction (c := c)
      simp only [Numeral.fraction, point, Option.getD_some] at digits
      simp only [point, Option.elim_some, List.mem_cons] at behind
      cases behind with
      | inl here => simp [here]
      | inr later => simp [digits c later]

theorem split_unsigned :
    (n.number ++ n.suffix).takeWhile isNumberChar = n.number ∧
      (n.number ++ n.suffix).dropWhile isNumberChar = n.suffix := by
  have numeric := fun c => n.isNumberChar_of_mem (c := c)
  obtain ⟨taken, dropped⟩ := takeWhile_suffix n.known
  rw [List.takeWhile_append_of_pos numeric, List.dropWhile_append_of_pos numeric, taken, dropped]
  simp

theorem splitPoint_number : splitPoint n.number = (n.whole, n.fraction) := by
  have plain : ∀ c ∈ n.whole, decide (c ≠ '.') = true := by
    intro c member
    have digit := n.digit_of_mem_whole member
    rw [decide_eq_true_iff]
    rintro rfl
    cases digit
  rw [splitPoint, number, List.takeWhile_append_of_pos plain, List.dropWhile_append_of_pos plain]
  cases point : n.point <;> simp [fraction, point]

theorem mantissa?_number (short : n.fraction.length ≤ maxPlaces) :
    mantissa? n.number =
      if n.mantissa ≤ maxNumerator then some (n.mantissa, n.fraction.length) else none := by
  have pointless : '.' ∉ n.fraction := by
    intro member
    cases n.digit_of_mem_fraction member
  simp only [mantissa?, n.splitPoint_number, pointless, if_false]
  by_cases fits : n.mantissa ≤ maxNumerator
  next =>
    have read : Text.readDigits maxNumerator (n.whole ++ n.fraction) = .ok n.mantissa :=
      (Text.readDigits_ok_iff _).mpr ⟨n.digital, rfl, fits⟩
    simp [read, short, fits]
  next =>
    rw [if_neg fits]
    split
    next digits given =>
      obtain ⟨-, same, within⟩ := (Text.readDigits_ok_iff _).mp given
      exact absurd (same.trans_le within) fits
    next => rfl

end Numeral

theorem cast_maxNumerator : (maxNumerator : ℚ) = 2 ^ 127 - 1 := by
  norm_num [maxNumerator]

theorem scale?_cases {digits places : Nat} {scaling : Scaling} (fits : digits ≤ maxNumerator)
    (room : places + scaling.extra ≤ maxPlaces) :
    (digits * scaling.factor ≤ maxNumerator →
      ∃ size behind, scale? digits places scaling = some (size, behind) ∧
        (size : ℚ) / 10 ^ behind = digits / 10 ^ places * scaling.factor) ∧
    (¬ digits * scaling.factor ≤ maxNumerator → scale? digits places scaling = none) := by
  cases scaling with
  | multiply factor =>
    have same : (digits : ℚ) * (Scaling.multiply factor).factor ≤ maxNumerator ↔
        digits * factor ≤ maxNumerator := by
      rw [Scaling.factor]
      exact_mod_cast Iff.rfl
    rw [same]
    constructor
    next =>
      intro within
      refine ⟨digits * factor, places, by simp [scale?, within], ?_⟩
      rw [Scaling.factor]
      push_cast
      ring
    next => intro beyond; simp [scale?, beyond]
  | divide more =>
    constructor
    next =>
      intro within
      have room : places + more ≤ maxPlaces := room
      refine ⟨digits, places + more, by simp [scale?, room], ?_⟩
      rw [Scaling.factor, pow_add]
      field_simp
    next =>
      intro beyond
      refine absurd ?_ beyond
      have smaller : (digits : ℚ) * (Scaling.divide more).factor ≤ digits := by
        apply mul_le_of_le_one_right (Nat.cast_nonneg digits)
        rw [Scaling.factor]
        exact (div_le_one (by positivity)).mpr (one_le_pow₀ (by norm_num))
      exact smaller.trans (by exact_mod_cast fits)

namespace Numeral

variable (n : Numeral)

theorem fits_iff : n.Fits ↔ n.mantissa ≤ maxNumerator ∧ n.mantissa * n.factor ≤ maxNumerator := by
  rw [cast_maxNumerator]
  rfl

theorem magnitude?_unsigned (short : n.fraction.length + 2 ^ 31 ≤ maxPlaces) :
    (n.Fits → ∃ size places, magnitude? (n.number ++ n.suffix) = some (size, places) ∧
      (size : ℚ) / 10 ^ places = n.mantissa / 10 ^ n.fraction.length * n.factor) ∧
    (¬ n.Fits → magnitude? (n.number ++ n.suffix) = none) := by
  obtain ⟨scaling, found, same⟩ := scaling?_of_suffix n.known
  have room : n.fraction.length + scaling.extra ≤ maxPlaces :=
    (Nat.add_le_add_left (extra_le_of_scaling? found) _).trans short
  have read : magnitude? (n.number ++ n.suffix) =
      if n.mantissa ≤ maxNumerator then scale? n.mantissa n.fraction.length scaling else none := by
    rw [magnitude?, n.split_unsigned.1, n.split_unsigned.2, found,
      n.mantissa?_number (by omega)]
    split <;> simp
  rw [read, fits_iff, ← same]
  by_cases fits : n.mantissa ≤ maxNumerator
  next =>
    simpa [fits] using scale?_cases fits room
  next => simp [fits]

theorem number_ne_nil : n.number ≠ [] := by
  intro empty
  obtain ⟨whole, behind⟩ := List.append_eq_nil_iff.mp empty
  cases point : n.point with
  | none => exact n.digital.1 (by simp [whole, point])
  | some fraction => simp [point] at behind

theorem unsigned_ne_sign :
    ∃ c rest, n.number ++ n.suffix = c :: rest ∧ c ≠ '-' ∧ c ≠ '+' := by
  obtain ⟨c, rest, number⟩ := List.exists_cons_of_ne_nil n.number_ne_nil
  have numeric : isNumberChar c = true := n.isNumberChar_of_mem (by simp [number])
  refine ⟨c, rest ++ n.suffix, by simp [number], ?_, ?_⟩ <;> rintro rfl <;> cases numeric

theorem ofTrimmed?_text :
    ofTrimmed? n.text = (magnitude? (n.number ++ n.suffix)).map fun (size, places) =>
      { text := String.ofList n.text, numerator := n.sign.factor * size, places } := by
  obtain ⟨c, rest, unsigned, notMinus, notPlus⟩ := n.unsigned_ne_sign
  rw [text]
  cases sign : n.sign with
  | minus => simp [Text.Sign.chars, Text.Sign.factor, ofTrimmed?]
  | plus => simp [Text.Sign.chars, Text.Sign.factor, ofTrimmed?]
  | absent =>
    rw [unsigned]
    simp [Text.Sign.chars, Text.Sign.factor, ofTrimmed?, notMinus, notPlus]

theorem readDigits_of_mantissa? {number : List Char} {digits places : Nat}
    (h : mantissa? number = some (digits, places)) :
    Text.readDigits maxNumerator ((splitPoint number).1 ++ (splitPoint number).2) = .ok digits := by
  rw [mantissa?] at h
  generalize splitPoint number = parts at h ⊢
  obtain ⟨whole, fraction⟩ := parts
  rw [Option.ite_none_left_eq_some] at h
  cases read : Text.readDigits maxNumerator (whole ++ fraction) with
  | ok value => simp_all
  | error fault => simp [read] at h

theorem digital_of_mantissa? {number : List Char} {digits places : Nat}
    (h : mantissa? number = some (digits, places)) :
    ∃ (whole : List Char) (point : Option (List Char)),
      Text.Digital (whole ++ point.getD []) ∧ whole ++ point.elim [] ('.' :: ·) = number := by
  have digital := ((Text.readDigits_ok_iff _).mp (readDigits_of_mantissa? h)).1
  have divided : number.takeWhile (· ≠ '.') ++ number.dropWhile (· ≠ '.') = number :=
    List.takeWhile_append_dropWhile
  have pointed := List.head?_dropWhile_not (· ≠ '.') number
  rw [splitPoint] at digital
  cases behind : number.dropWhile (· ≠ '.') with
  | nil =>
    rw [behind] at digital divided
    exact ⟨_, none, digital, divided⟩
  | cons c fraction =>
    rw [behind] at digital divided pointed
    have point : c = '.' := by simpa using pointed
    exact ⟨_, some fraction, digital, point ▸ divided⟩

theorem exists_of_magnitude? {text : List Char} {result : Nat × Nat}
    (h : magnitude? text = some result) (sign : Text.Sign) :
    ∃ n : Numeral, n.sign = sign ∧ n.number ++ n.suffix = text := by
  simp only [magnitude?, Option.bind_eq_bind, Option.bind_eq_some_iff] at h
  obtain ⟨_, read, scaling, found, -⟩ := h
  obtain ⟨whole, point, digital, number⟩ := digital_of_mantissa? read
  refine ⟨{ sign, whole, point, suffix := text.dropWhile isNumberChar, factor := scaling.factor
            digital, known := suffix_of_scaling? found }, rfl, ?_⟩
  simp only [Numeral.number, number]
  exact List.takeWhile_append_dropWhile

theorem exists_of_ofTrimmed? {text : List Char} {quantity : Quantity}
    (h : ofTrimmed? text = some quantity) : ∃ n : Numeral, n.text = text := by
  unfold ofTrimmed? at h
  split at h
  next => cases h
  next rest =>
    obtain ⟨result, read, -⟩ := Option.map_eq_some_iff.mp h
    obtain ⟨n, sign, unsigned⟩ := exists_of_magnitude? read .minus
    exact ⟨n, by rw [Numeral.text, sign, unsigned]; rfl⟩
  next rest _ =>
    obtain ⟨result, read, -⟩ := Option.map_eq_some_iff.mp h
    obtain ⟨n, sign, unsigned⟩ := exists_of_magnitude? read .plus
    exact ⟨n, by rw [Numeral.text, sign, unsigned]; rfl⟩
  next =>
    obtain ⟨result, read, -⟩ := Option.map_eq_some_iff.mp h
    obtain ⟨n, sign, unsigned⟩ := exists_of_magnitude? read .absent
    exact ⟨n, by rw [Numeral.text, sign, unsigned]; rfl⟩

end Numeral

theorem parse_ok_iff {text : String} {quantity : Quantity} :
    parse text = .ok quantity ↔ ofTrimmed? (Text.trim text.toList) = some quantity := by
  unfold parse
  split <;> simp_all

theorem parse_eq_error {text : String} {fault : Error} (h : parse text = .error fault) :
    fault = .invalidQuantity text := by
  unfold parse at h
  split at h <;> cases h
  rfl

theorem length_le_utf8ByteSize (text : List Char) :
    text.length ≤ (String.ofList text).utf8ByteSize := by
  induction text with
  | nil => simp
  | cons c rest ih =>
    have positive := c.utf8Size_pos
    rw [String.ofList_cons, String.utf8ByteSize_append, String.utf8ByteSize_singleton,
      List.length_cons]
    omega

namespace Numeral

variable (n : Numeral) {text : String}

theorem fraction_short (spelled : n.text = Text.trim text.toList)
    (short : text.utf8ByteSize < 2 ^ 31) : n.fraction.length + 2 ^ 31 ≤ maxPlaces := by
  have bytes := length_le_utf8ByteSize text.toList
  rw [String.ofList_toList] at bytes
  have kept := (Text.trim_infix text.toList).length_le
  rw [← spelled] at kept
  have part : n.fraction.length ≤ n.text.length := by
    cases point : n.point <;> simp [fraction, Numeral.text, number, point]
    omega
  simp only [maxPlaces, UInt32.size]
  omega

theorem parse_of_fits (spelled : n.text = Text.trim text.toList)
    (short : text.utf8ByteSize < 2 ^ 31) (fits : n.Fits) :
    ∃ quantity, parse text = .ok quantity ∧ quantity.toRat = n.value := by
  obtain ⟨size, places, read, scaled⟩ :=
    (n.magnitude?_unsigned (n.fraction_short spelled short)).1 fits
  refine ⟨{ text := String.ofList n.text, numerator := n.sign.factor * size, places }, ?_, ?_⟩
  next => rw [parse_ok_iff, ← spelled, n.ofTrimmed?_text, read, Option.map_some]
  next =>
    rw [n.value_eq, ← scaled, toRat]
    push_cast
    ring

theorem fits_of_parse (spelled : n.text = Text.trim text.toList)
    (short : text.utf8ByteSize < 2 ^ 31) {quantity : Quantity} (read : parse text = .ok quantity) :
    n.Fits := by
  by_contra large
  have none := (n.magnitude?_unsigned (n.fraction_short spelled short)).2 large
  rw [parse_ok_iff, ← spelled, n.ofTrimmed?_text, none] at read
  cases read

end Numeral

theorem text_of_ofTrimmed? {text : List Char} {quantity : Quantity}
    (h : ofTrimmed? text = some quantity) : quantity.text = String.ofList text := by
  obtain ⟨n, rfl⟩ := Numeral.exists_of_ofTrimmed? h
  rw [n.ofTrimmed?_text] at h
  obtain ⟨_, -, rfl⟩ := Option.map_eq_some_iff.mp h
  rfl

/-- A text is read as a quantity if and only if it is the written form of a number, up to blanks
around it, with digits that fit. The quantity is that number and keeps its text. -/
theorem parse_exact (text : String) (short : text.utf8ByteSize < 2 ^ 31) :
    ((∃ quantity, parse text = .ok quantity) ↔
      ∃ n : Numeral, n.text = Text.trim text.toList ∧ n.Fits) ∧
    (∀ quantity, parse text = .ok quantity →
      (∀ n : Numeral, n.text = Text.trim text.toList → quantity.toRat = n.value) ∧
        quantity.text = String.ofList (Text.trim text.toList) ∧
        parse quantity.text = .ok quantity) ∧
    ∀ fault, parse text = .error fault → fault = .invalidQuantity text := by
  refine ⟨⟨?_, ?_⟩, ?_, fun fault => parse_eq_error⟩
  next =>
    rintro ⟨quantity, read⟩
    obtain ⟨n, spelled⟩ := Numeral.exists_of_ofTrimmed? (parse_ok_iff.mp read)
    exact ⟨n, spelled, n.fits_of_parse spelled short read⟩
  next =>
    rintro ⟨n, spelled, fits⟩
    obtain ⟨quantity, read, -⟩ := n.parse_of_fits spelled short fits
    exact ⟨quantity, read⟩
  next =>
    intro quantity read
    have kept := text_of_ofTrimmed? (parse_ok_iff.mp read)
    refine ⟨?_, kept, ?_⟩
    next =>
      intro n spelled
      obtain ⟨other, same, value⟩ :=
        n.parse_of_fits spelled short (n.fits_of_parse spelled short read)
      rw [read] at same
      cases same
      exact value
    next =>
      rw [parse_ok_iff] at read ⊢
      rw [kept, String.toList_ofList, Text.trim_trim, read]

def fewThousandths : Numeral where
  sign := .minus
  whole := []
  point := some ['5', '0']
  suffix := ['e', '-', '3']
  factor := 10 ^ (-3 : Int)
  digital := by simp [Text.Digital]
  known := .exponent 'e' (.inl rfl) .minus ['3'] (by simp [Text.Digital]) (-3) (by decide)
    (by decide) (by decide)

theorem parse_exact_fewThousandths :
    (" -.50e-3\t").utf8ByteSize < 2 ^ 31 ∧ ∃ quantity, parse " -.50e-3\t" = .ok quantity ∧
      quantity.toRat = -1 / 2000 ∧ quantity.text = "-.50e-3" ∧
      parse quantity.text = .ok quantity := by
  have short : (" -.50e-3\t").utf8ByteSize < 2 ^ 31 := by decide
  have spelled : fewThousandths.text = Text.trim (" -.50e-3\t").toList := by decide
  have mantissa : fewThousandths.mantissa = 50 := by decide
  have fits : fewThousandths.Fits := by
    rw [Numeral.Fits, mantissa]
    norm_num [fewThousandths]
  have value : fewThousandths.value = -1 / 2000 := by
    rw [Numeral.value_eq, mantissa]
    norm_num [fewThousandths, Numeral.fraction, Text.Sign.factor]
  obtain ⟨accepted, kept, -⟩ := parse_exact " -.50e-3\t" short
  obtain ⟨quantity, read⟩ := accepted.mpr ⟨fewThousandths, spelled, fits⟩
  obtain ⟨same, text, again⟩ := kept quantity read
  exact ⟨short, quantity, read, (same _ spelled).trans value, text.trans (by decide), again⟩

end Quantity

end GangScheduling

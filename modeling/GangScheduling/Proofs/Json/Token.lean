import GangScheduling.Json.Token
import GangScheduling.Proofs.Text.Decimal
import Mathlib.Data.List.TakeWhile

set_option autoImplicit false

namespace GangScheduling.Json

inductive Textual : Json → Prop
  | null : Textual .null
  | bool (value : Bool) : Textual (.bool value)
  | integer (n : Int) : Textual (.integer n)
  | decimal : Textual .decimal
  | string (text : String) : Textual (.string (some text))
  | array {items : List Json} (each : ∀ item ∈ items, Textual item) : Textual (.array items)
  | object {members : List (Option String × Json)} (keys : ∀ member ∈ members, member.1.isSome)
      (each : ∀ member ∈ members, Textual member.2) : Textual (.object members)

mutual

def tokensOf : Json → List Token
  | .string text => [.text text]
  | .array items => .openArray :: itemTokens items ++ [.closeArray]
  | .object members => .openObject :: memberTokens members ++ [.closeObject]
  | scalar => [.scalar scalar]

def itemTokens : List Json → List Token
  | [] => []
  | [item] => tokensOf item
  | item :: rest => tokensOf item ++ .comma :: itemTokens rest

def memberTokens : List (Option String × Json) → List Token
  | [] => []
  | [(key, value)] => .text key :: .colon :: tokensOf value
  | (key, value) :: rest => .text key :: .colon :: tokensOf value ++ .comma :: memberTokens rest

end

theorem tokensOf_array (items : List Json) :
    (Json.array items).tokensOf = .openArray :: itemTokens items ++ [.closeArray] :=
  rfl

theorem tokensOf_object (members : List (Option String × Json)) :
    (Json.object members).tokensOf = .openObject :: memberTokens members ++ [.closeObject] :=
  rfl

def Apart (rest : List Char) : Prop :=
  ∀ c ∈ rest.head?, isNumberChar c = false ∧ c.isAlpha = false

theorem Apart.cons {c : Char} (numeral : isNumberChar c = false) (letter : c.isAlpha = false)
    (rest : List Char) : Apart (c :: rest) := by
  rintro first ⟨⟩
  exact ⟨numeral, letter⟩

section Collecting

variable {mode : List Char → Mode} {text rest : List Char}

theorem tokensFrom_append
    (collects : ∀ chars, ∀ c ∈ text, (mode chars).step c = (mode (c :: chars), []))
    (chars rest : List Char) :
    tokensFrom (mode chars) (text ++ rest) = tokensFrom (mode (text.reverse ++ chars)) rest := by
  induction text generalizing chars with
  | nil => rfl
  | cons c text ih =>
    have first := collects chars c List.mem_cons_self
    have later := ih fun chars c member => collects chars c (List.mem_cons_of_mem _ member)
    simp only [List.cons_append, tokensFrom, first, later]
    simp

theorem tokensFrom_begin {first : Char} (starts : begin first = (mode [first], []))
    (collects : ∀ chars, ∀ c ∈ text, (mode chars).step c = (mode (c :: chars), []))
    (rest : List Char) :
    tokensFrom .between (first :: text ++ rest) =
      tokensFrom (mode (text.reverse ++ [first])) rest := by
  have begun : tokensFrom .between (first :: text ++ rest) =
      tokensFrom (mode [first]) (text ++ rest) := by simp [tokensFrom, Mode.step, starts]
  rw [begun, tokensFrom_append collects]

theorem tokensFrom_word (chars : List Char) (apart : Apart rest) :
    tokensFrom (.word chars) rest = word chars.reverse :: tokensFrom .between rest := by
  cases rest with
  | nil => rfl
  | cons c rest => simp [tokensFrom, Mode.step, apart c rfl]

theorem tokensFrom_number (chars : List Char) (apart : Apart rest) :
    tokensFrom (.number chars) rest = number chars.reverse :: tokensFrom .between rest := by
  cases rest with
  | nil => rfl
  | cons c rest => simp [tokensFrom, Mode.step, apart c rfl]

end Collecting

section Numbers

theorem digital_toDigits (n : Nat) : Text.Digital (Nat.toDigits 10 n) :=
  ⟨Nat.toDigits_ne_nil, fun _ => Nat.isDigit_of_mem_toDigits (by decide) (by decide)⟩

theorem exists_toDigits {n : Nat} (positive : 0 < n) :
    ∃ c rest, Nat.toDigits 10 n = c :: rest ∧ c ≠ '0' := by
  have digit : ∀ n < 10, 0 < n → n.digitChar ≠ '0' := by decide
  induction n using Nat.base_induction 10 (by decide) with
  | single n small => exact ⟨_, [], Nat.toDigits_of_lt_base small, digit n small positive⟩
  | digit n k small above ih =>
    obtain ⟨c, rest, digits, first⟩ := ih above
    rw [← Nat.toDigits_append_toDigits (by decide) above small, digits]
    exact ⟨c, _, rfl, first⟩

theorem isWhole_toDigits (n : Nat) : isWhole (Nat.toDigits 10 n) = true := by
  cases n with
  | zero => decide
  | succ n =>
    obtain ⟨c, rest, digits, first⟩ := exists_toDigits n.succ_pos
    have all := (digital_toDigits (n + 1)).2
    rw [digits] at all ⊢
    have chars : (c :: rest).all Char.isDigit = true := List.all_eq_true.mpr all
    simp [isWhole, first, chars]

theorem number_toDigits (n : Nat) :
    number (Nat.toDigits 10 n) = .scalar (.integer n) ∧
      (0 < n → number ('-' :: Nat.toDigits 10 n) = .scalar (.integer (-n))) := by
  have digital := digital_toDigits n
  have taken := List.takeWhile_eq_self_iff.mpr digital.2
  have dropped := List.dropWhile_eq_nil_iff.mpr digital.2
  have value : digitsValue (Nat.toDigits 10 n) = n :=
    Nat.ofDigitChars_toDigits (by decide) (by decide)
  have whole := isWhole_toDigits n
  have ends : isFraction [] = true := rfl
  constructor
  next =>
    obtain ⟨c, rest, digits, notMinus, -⟩ := digital.ne_sign
    rw [digits] at taken dropped value whole ⊢
    simp only [number, List.cons.injEq, notMinus, false_and, imp_self, implies_true, taken, dropped]
    simp [value, whole, ends]
  next =>
    intro positive
    simp [number, taken, dropped, value, whole, ends, Nat.ne_of_gt positive]

theorem write_ofNat (n : Nat) : (Json.integer (.ofNat n)).write = Nat.toDigits 10 n :=
  Nat.toList_repr

theorem write_negSucc (n : Nat) :
    (Json.integer (.negSucc n)).write = '-' :: Nat.toDigits 10 (n + 1) := by
  have text : (Json.integer (.negSucc n)).write = ("-" ++ (n + 1).repr).toList := rfl
  rw [text, String.toList_append, Nat.toList_repr]
  rfl

theorem begin_of_digit {c : Char} (digit : c.isDigit = true) : begin c = (.number [c], []) := by
  have visible : isSpace c = false := by
    cases space : isSpace c with
    | false => rfl
    | true =>
      simp only [isSpace, Bool.or_eq_true, decide_eq_true_eq] at space
      rcases space with ((rfl | rfl) | rfl) | rfl <;> cases digit
  unfold begin
  split <;> first | cases digit | simp [visible, digit]

theorem isNumberChar_of_digit {c : Char} (digit : c.isDigit = true) : isNumberChar c = true := by
  simp [isNumberChar, digit]

theorem tokensFrom_digits {first : Char} {digits rest : List Char}
    (starts : begin first = (.number [first], [])) (digital : ∀ c ∈ digits, c.isDigit = true)
    (apart : Apart rest) :
    tokensFrom .between (first :: digits ++ rest) =
      number (first :: digits) :: tokensFrom .between rest := by
  have collects : ∀ chars, ∀ c ∈ digits,
      (Mode.number chars).step c = (.number (c :: chars), []) := by
    intro chars c member
    simp [Mode.step, isNumberChar_of_digit (digital c member)]
  rw [tokensFrom_begin starts collects, tokensFrom_number _ apart]
  simp

theorem tokensFrom_integer (n : Int) {rest : List Char} (apart : Apart rest) :
    tokensFrom .between ((Json.integer n).write ++ rest) =
      .scalar (.integer n) :: tokensFrom .between rest := by
  cases n with
  | ofNat n =>
    have digital := (digital_toDigits n).2
    have same := (number_toDigits n).1
    rw [write_ofNat]
    obtain ⟨c, digits, text⟩ := List.exists_cons_of_ne_nil (digital_toDigits n).1
    rw [text] at digital same ⊢
    obtain ⟨digit, digital⟩ := List.forall_mem_cons.mp digital
    rw [tokensFrom_digits (begin_of_digit digit) digital apart, same]
    rfl
  | negSucc n =>
    rw [write_negSucc, tokensFrom_digits rfl (digital_toDigits (n + 1)).2 apart,
      (number_toDigits (n + 1)).2 n.succ_pos]
    rfl

end Numbers

section Strings

theorem hexValue?_hexDigit : ∀ n < 16, hexValue? (hexDigit n) = some n := by
  decide

theorem tokensFrom_escapeChar (c : Char) (units : List Nat) (rest : List Char) :
    tokensFrom (.string units) (escapeChar c ++ rest) =
      tokensFrom (.string (c.toNat :: units)) rest := by
  unfold escapeChar
  split
  next => rfl
  next => rfl
  next => rfl
  next => rfl
  next => rfl
  next => rfl
  next => rfl
  next _ quote backslash _ _ _ _ _ =>
    by_cases control : c.toNat < 32
    next =>
      have high := hexValue?_hexDigit (c.toNat / 16) (by omega)
      have low := hexValue?_hexDigit (c.toNat % 16) (by omega)
      have zero : hexValue? '0' = some 0 := rfl
      have unit : 16 * (c.toNat / 16) + c.toNat % 16 = c.toNat := Nat.div_add_mod _ _
      simp [control, tokensFrom, Mode.step, zero, high, low, unit]
    next =>
      have notQuote : c ≠ '"' := quote
      have notBackslash : c ≠ '\\' := backslash
      simp [control, tokensFrom, Mode.step, notQuote, notBackslash]

theorem tokensFrom_escaped (text : List Char) (units : List Nat) (rest : List Char) :
    tokensFrom (.string units) (text.flatMap escapeChar ++ '"' :: rest) =
      textToken (units.reverse ++ text.map Char.toNat) :: tokensFrom .between rest := by
  induction text generalizing units with
  | nil => simp [tokensFrom, Mode.step]
  | cons c text ih =>
    rw [List.flatMap_cons, List.append_assoc, tokensFrom_escapeChar, ih]
    simp

theorem joinSurrogates_map (text : List Char) :
    joinSurrogates (text.map Char.toNat) = some text := by
  induction text with
  | nil => rfl
  | cons c rest ih =>
    have whole : ¬ (0xD800 ≤ c.toNat ∧ c.toNat < 0xE000) := by
      have valid : c.toNat < 0xD800 ∨ 0xDFFF < c.toNat ∧ c.toNat < 0x110000 := c.valid
      omega
    cases rest with
    | nil => rw [List.map_cons, List.map_nil, joinSurrogates, if_neg whole, Char.ofNat_toNat]
    | cons next rest =>
      have notHigh : ¬ (0xD800 ≤ c.toNat ∧ c.toNat < 0xDC00) := by omega
      have notLow : ¬ (0xDC00 ≤ c.toNat ∧ c.toNat < 0xE000) := by omega
      simp only [List.map_cons] at ih ⊢
      rw [joinSurrogates, if_neg notHigh, if_neg notLow, ih, Option.map_some, Char.ofNat_toNat]

theorem tokensFrom_quote (text : String) (rest : List Char) :
    tokensFrom .between (quote text ++ rest) =
      .text (some text) :: tokensFrom .between rest := by
  have body := tokensFrom_escaped text.toList [] rest
  have same : textToken (text.toList.map Char.toNat) = .text (some text) := by
    simp [textToken, joinSurrogates_map]
  rw [List.reverse_nil, List.nil_append, same] at body
  rw [← body]
  simp [quote, tokensFrom, Mode.step, begin]

end Strings

section Values

variable {rest : List Char}

theorem tokensFrom_name (first : Char) (name : List Char) (starts : begin first = (.word [first], []))
    (letters : name.all Char.isAlpha = true) (apart : Apart rest) :
    tokensFrom .between (first :: name ++ rest) =
      word (first :: name) :: tokensFrom .between rest := by
  have collects : ∀ chars, ∀ c ∈ name, (Mode.word chars).step c = (.word (c :: chars), []) := by
    intro chars c member
    simp [Mode.step, List.all_eq_true.mp letters c member]
  rw [tokensFrom_begin starts collects, tokensFrom_word _ apart]
  simp

def Lexes (json : Json) : Prop :=
  ∀ rest, Apart rest →
    tokensFrom .between (json.write ++ rest) = json.tokensOf ++ tokensFrom .between rest

theorem lexes_items {items : List Json} (each : ∀ item ∈ items, Lexes item) (apart : Apart rest) :
    tokensFrom .between (writeItems items ++ rest) =
      itemTokens items ++ tokensFrom .between rest := by
  induction items with
  | nil => rfl
  | cons item items ih =>
    obtain ⟨first, each⟩ := List.forall_mem_cons.mp each
    cases items with
    | nil => exact first rest apart
    | cons next items =>
      have later := ih each
      simp only [writeItems, itemTokens, List.append_assoc, List.cons_append]
      rw [first _ (.cons rfl rfl _), ← later]
      rfl

theorem lexes_members {members : List (Option String × Json)}
    (keys : ∀ member ∈ members, member.1.isSome) (each : ∀ member ∈ members, Lexes member.2)
    (apart : Apart rest) :
    tokensFrom .between (writeMembers members ++ rest) =
      memberTokens members ++ tokensFrom .between rest := by
  induction members with
  | nil => rfl
  | cons member members ih =>
    obtain ⟨key, value⟩ := member
    obtain ⟨named, restKeys⟩ := List.forall_mem_cons.mp keys
    obtain ⟨first, restEach⟩ := List.forall_mem_cons.mp each
    obtain ⟨name, rfl⟩ := Option.isSome_iff_exists.mp named
    have opened (more : List Char) : tokensFrom .between (quote name ++ ':' :: more) =
        .text (some name) :: .colon :: tokensFrom .between more := by
      rw [tokensFrom_quote]
      rfl
    cases members with
    | nil =>
      simp only [writeMembers, memberTokens, List.append_assoc, List.cons_append, Option.getD_some]
      rw [opened, first rest apart]
    | cons next members =>
      have later := ih restKeys restEach
      simp only [writeMembers, memberTokens, List.append_assoc, List.cons_append, Option.getD_some]
      rw [opened, first _ (.cons rfl rfl _), ← later]
      rfl

theorem write_array (items : List Json) :
    (Json.array items).write = '[' :: writeItems items ++ [']'] :=
  rfl

theorem write_object (members : List (Option String × Json)) :
    (Json.object members).write = '\x7b' :: writeMembers members ++ ['\x7d'] :=
  rfl

theorem Textual.lexes {json : Json} (textual : json.Textual) : Lexes json := by
  induction textual with
  | null => exact fun rest apart => tokensFrom_name 'n' ['u', 'l', 'l'] rfl rfl apart
  | bool value =>
    intro rest apart
    cases value with
    | true => exact tokensFrom_name 't' ['r', 'u', 'e'] rfl rfl apart
    | false => exact tokensFrom_name 'f' ['a', 'l', 's', 'e'] rfl rfl apart
  | integer n => exact fun rest apart => tokensFrom_integer n apart
  | decimal =>
    intro rest apart
    exact tokensFrom_number ['0', '-'] apart
  | string text => exact fun rest _ => tokensFrom_quote text rest
  | array each ih =>
    intro rest apart
    have ends : Apart (']' :: rest) := .cons rfl rfl rest
    have inside := lexes_items ih ends
    have closed : tokensFrom .between (']' :: rest) = .closeArray :: tokensFrom .between rest := rfl
    rw [write_array, tokensOf_array]
    simp only [List.append_assoc, List.cons_append, List.nil_append]
    rw [← closed, ← inside]
    rfl
  | object keys each ih =>
    intro rest apart
    have ends : Apart ('\x7d' :: rest) := .cons rfl rfl rest
    have inside := lexes_members keys ih ends
    have closed : tokensFrom .between ('\x7d' :: rest) =
      .closeObject :: tokensFrom .between rest := rfl
    rw [write_object, tokensOf_object]
    simp only [List.append_assoc, List.cons_append, List.nil_append]
    rw [← closed, ← inside]
    rfl

theorem tokens_compact {json : Json} (textual : json.Textual) :
    tokens json.compact = json.tokensOf := by
  have all := textual.lexes [] (by rintro c ⟨⟩)
  simpa [tokens, compact, tokensFrom, Mode.finish] using all

end Values

end GangScheduling.Json

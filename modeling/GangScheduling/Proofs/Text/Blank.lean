import GangScheduling.Text.Blank
import Mathlib.Data.List.DropRight

set_option autoImplicit false

namespace GangScheduling.Text

theorem trimRight_eq (text : List Char) : trimRight text = text.rdropWhile isBlank :=
  rfl

theorem trimRight_cons {c : Char} (visible : isBlank c = false) (rest : List Char) :
    trimRight (c :: rest) = c :: trimRight rest := by
  simp only [trimRight, trimLeft, List.reverse_cons, List.dropWhile_append]
  split
  next empty => simp_all
  next => simp

theorem trimLeft_trimRight_trimLeft (text : List Char) :
    trimLeft (trimRight (trimLeft text)) = trimRight (trimLeft text) := by
  cases left : trimLeft text with
  | nil => rfl
  | cons c rest =>
    have visible : isBlank c = false := by
      have first := List.head?_dropWhile_not isBlank text
      have head : (text.dropWhile isBlank).head? = some c := by
        rw [show text.dropWhile isBlank = c :: rest from left]
        rfl
      rw [head] at first
      simpa using first
    rw [trimRight_cons visible, trimLeft_of_head c _ visible]

theorem trim_trim (text : List Char) : trim (trim text) = trim text := by
  have left : trimLeft (trim text) = trim text := trimLeft_trimRight_trimLeft text
  rw [trim, left, trim, trimRight_eq, trimRight_eq, List.rdropWhile_idempotent]

theorem trim_infix (text : List Char) : trim text <:+: text :=
  (List.rdropWhile_prefix isBlank (trimLeft text)).isInfix.trans
    (List.dropWhile_suffix isBlank).isInfix

end GangScheduling.Text

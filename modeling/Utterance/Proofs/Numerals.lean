import Utterance.Value

/-!
# Decimal numerals

A count that is written in decimal digits is read back, as long as it is no greater than the
greatest count (`Value.indexOfText?_toString`). A numeral holds no other characters than digits, so
it has no sign and no dot.
-/
namespace Utterance

/-- A number is written in digits only. -/
theorem Text.not_mem_toString (number : Nat) {char : Char} (other : char.isDigit = false) :
    char ∉ (toString number).toList := by
  intro member
  rw [Nat.toString_eq_repr, Nat.toList_repr] at member
  rw [Nat.isDigit_of_mem_toDigits (by decide) (by decide) member] at other
  exact absurd other (by decide)

/-- The digits of a number have its value. -/
theorem Number.decimalValue_toString (number : Nat) :
    decimalValue (toString number).toList = number := by
  rw [Nat.toString_eq_repr, Nat.toList_repr]
  exact Nat.ofDigitChars_ten_toDigits

/-- A text of digits is read as the index that the digits denote. -/
theorem Value.indexOfText?_of_digits {text : String} (filled : text.toList ≠ [])
    (digits : ∀ char ∈ text.toList, char.isDigit = true)
    (counted : Number.decimalValue text.toList ≤ maxCount) :
    indexOfText? text = some (Number.decimalValue text.toList) := by
  unfold indexOfText?
  cases shape : text.toList with
  | nil => exact absurd shape filled
  | cons first rest =>
    rw [shape] at digits counted
    -- The first character is a digit and no plus sign, so nothing is taken away in front.
    have unsigned : first ≠ '+' := by
      rintro rfl
      have plus := digits '+' List.mem_cons_self
      exact absurd plus (by decide)
    have all : (first :: rest).all Char.isDigit = true := List.all_eq_true.2 digits
    simp [unsigned, all, counted]

/-- An index that is written in digits is read back. -/
theorem Value.indexOfText?_toString {index : Nat} (counted : index ≤ maxCount) :
    indexOfText? (toString index) = some index := by
  have filled : (toString index).toList ≠ [] := by
    rw [Nat.toString_eq_repr, Nat.toList_repr]
    exact Nat.toDigits_ne_nil
  have digits : ∀ char ∈ (toString index).toList, char.isDigit = true := by
    intro char member
    cases shown : char.isDigit with
    | true => rfl
    | false => exact absurd member (Text.not_mem_toString index shown)
  have value := Number.decimalValue_toString index
  rw [indexOfText?_of_digits filled digits (by rwa [value]), value]

end Utterance

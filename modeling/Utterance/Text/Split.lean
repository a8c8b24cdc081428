/-!
# Dividing text

Text is divided at every place where a separator stands, so there is one part more than separators.
Digits of base sixteen are read here too, since tables, patterns and documents share them.
-/
namespace Utterance.Text

/-- Parts of a character list between separators; there is one part more than separators. -/
def splitChars (separator : Char) : List Char → List (List Char)
  | [] => [[]]
  | char :: rest =>
    if char = separator then [] :: splitChars separator rest
    else
      match splitChars separator rest with
      | [] => [[char]]
      | part :: parts => (char :: part) :: parts

/-- Value of a hexadecimal digit. -/
def hexDigit? (char : Char) : Option Nat :=
  if '0' ≤ char ∧ char ≤ '9' then some (char.toNat - '0'.toNat)
  else if 'a' ≤ char ∧ char ≤ 'f' then some (char.toNat - 'a'.toNat + 10)
  else if 'A' ≤ char ∧ char ≤ 'F' then some (char.toNat - 'A'.toNat + 10)
  else none

end Utterance.Text

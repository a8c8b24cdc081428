import Utterance.Text.Letter

/-!
# Quoted text

Text between double quotes. A quote, a backslash and the common control characters are written with
a backslash; a character without a visible form, or one that would attach to the character before
it, is written by its code point.
-/
namespace Utterance.Text

open Utterance.Unicode (Category)

/-- Digits of a number in hexadecimal, lower case. -/
def hexText (value : Nat) : String := String.ofList (Nat.toDigits 16 value)

/-- Characters without a visible form of their own, the space apart. -/
def invisible : CharSet :=
  (CharSet.unions [Category.control.members, Category.format.members, Category.surrogate.members,
    Category.privateUse.members, Category.lineSeparator.members,
    Category.paragraphSeparator.members, Category.spaceSeparator.members,
    Unicode.Current.unassigned, Unicode.Current.defaultIgnorable]).difference (.single ' ')

/-- Characters that attach to the character before them. Two marks that are letters stand beside it
instead. -/
def attaching : CharSet := Unicode.Current.graphemeExtend.difference (.ofTable "ff9e-ff9f")

/-- Whether quoted text shows a character as it is. -/
def isVisible (char : Char) : Bool :=
  if char.toNat < 128 then 0x20 ≤ char.toNat && char.toNat < 0x7f
  else !attaching.contains char && !invisible.contains char

/-- The form of one character in quoted text. -/
def quotedChar (char : Char) : String :=
  if char = '\x00' then "\\0"
  else if char = '\t' then "\\t"
  else if char = '\r' then "\\r"
  else if char = '\n' then "\\n"
  else if char = '\\' then "\\\\"
  else if char = '"' then "\\\""
  else if isVisible char then char.toString
  else "\\u\x7b" ++ hexText char.toNat ++ "\x7d"

/-- The text between double quotes. -/
def quoted (text : String) : String :=
  "\"" ++ String.join (text.toList.map quotedChar) ++ "\""

end Utterance.Text

import Utterance.Unicode.Current

/-!
# Letters and numbers

Whether a character is a letter, or stands for a number, in any script.
-/
namespace Utterance.Text

/-- Letters and characters that stand for a number. -/
def alphanumeric : CharSet := Unicode.Current.alphabetic.union Unicode.Current.numeric

/-- Whether a character is a letter. -/
def isAlphabetic (char : Char) : Bool :=
  if char.toNat < 128 then char.isAlpha else Unicode.Current.alphabetic.contains char

/-- Whether a character is a letter or stands for a number. -/
def isAlphanumeric (char : Char) : Bool :=
  if char.toNat < 128 then char.isAlphanum else alphanumeric.contains char

end Utterance.Text

import Utterance.Unicode.Property
import Utterance.Unicode.Script

/-!
# Word break classes

The division of text into words looks at characters only through the classes below. They are given
as of version 16 of the standard.
-/
namespace Utterance.Unicode

open Utterance.Text (CharSet)

/-- What a character is to the division of text into words. -/
inductive WordBreak where
  | carriageReturn
  | lineFeed
  /-- Other ends of lines. -/
  | newline
  /-- Marks that belong to the character before them. -/
  | extend
  | zeroWidthJoiner
  | regional
  /-- Characters without width that steer layout. -/
  | format
  | katakana
  | hebrew
  /-- Letters of alphabetic and syllabic scripts, the Hebrew ones apart. -/
  | letter
  | singleQuote
  | doubleQuote
  /-- Marks that stay inside a word between two letters or two digits. -/
  | midEither
  /-- Marks that stay inside a word between two letters. -/
  | midLetter
  /-- Marks that stay inside a number between two digits. -/
  | midNumber
  | numeric
  /-- Low lines and other characters that belong to a word beside letters and digits. -/
  | joiner
  /-- Spaces that form one segment when they follow each other. -/
  | space
  | other
deriving Repr, DecidableEq, Inhabited

namespace WordBreak

/-- Letters of Hebrew. -/
def hebrewSet : CharSet :=
  ((Script.members? "hebrew").getD .empty).intersect Category.otherLetter.members

/-- Katakana, with the marks used in it. -/
def katakanaSet : CharSet :=
  ((Script.members? "katakana").getD .empty).union (.ofTable "3031-3035 309b-309c 30a0 30fc ff70")

/-- Marks that belong to the character before them. -/
def extendSet : CharSet :=
  (CharSet.unions [Property.graphemeExtendSet, Category.spacingMark.members,
    Property.emojiModifier.members]).difference (.ofTable "200d")

/-- Signs that stand inside words although they are no letters. -/
def letterLike : CharSet :=
  .ofTable
    "2c2-2c5 2d2-2d7 2de-2df 2e5-2eb 2ed 2ef-2ff 55a-55c 55e 58a 5f3 70f a708-a716 a720-a721
     a789-a78a ab5b"

/-- Letters of scripts that write words without a space between them. -/
def unspaced : CharSet :=
  .ofTable
    "e01-e30 e32-e33 e40-e46 e81-e82 e84 e86-e8a e8c-ea3 ea5 ea7-eb0 eb2-eb3 ebd ec0-ec4 ec6
     edc-edf 1000-102a 103f 1050-1055 105a-105d 1061 1065-1066 106e-1070 1075-1081 108e
     1780-17b3 17d7 17dc 1950-196d 1970-1974 1980-19ab 19b0-19c9 1a20-1a54 1aa7 a9e0-a9e4
     a9e6-a9ef a9fa-a9fe aa60-aa76 aa7a aa7e-aaaf aab1 aab5-aab6 aab9-aabd aac0 aac2
     aadb-aadd 11700-1171a 11740-11746"

/-- Letters of alphabetic and syllabic scripts, the Hebrew ones apart. -/
def letterSet : CharSet :=
  (Property.alphabeticSet.union letterLike).difference
    (.unions [Property.ideographic.members, (Script.members? "hiragana").getD .empty, katakanaSet,
      hebrewSet, extendSet, unspaced])

/-- Signs that belong to numbers beside the digits. -/
def numberSigns : CharSet := .ofTable "600-605 66b 6dd 890-891 8e2 19da 110bd 110cd"

/-- Characters of a class; `other` is what the others leave out. -/
def members : WordBreak → CharSet
  | .carriageReturn => .single '\r'
  | .lineFeed => .single '\n'
  | .newline => .ofTable "b-c 85 2028-2029"
  | .extend => extendSet
  | .zeroWidthJoiner => .ofTable "200d"
  | .regional => .ofTable "1f1e6-1f1ff"
  | .format =>
    .ofTable
      "ad 61c 180e 200e-200f 202a-202e 2060-2064 2066-206f feff fff9-fffb 13430-1343f
       1bca0-1bca3 1d173-1d17a e0001"
  | .katakana => katakanaSet
  | .hebrew => hebrewSet
  | .letter => letterSet
  | .singleQuote => .ofTable "27"
  | .doubleQuote => .ofTable "22"
  | .midEither => .ofTable "2e 2018-2019 2024 fe52 ff07 ff0e"
  | .midLetter => .ofTable "3a b7 387 55f 5f4 2027 fe13 fe55 ff1a"
  | .midNumber => .ofTable "2c 3b 37e 589 60c-60d 66c 7f8 2044 fe50 fe54 ff0c ff1b"
  | .numeric => Category.decimalNumber.members.union numberSigns
  | .joiner => .ofTable "5f 202f 203f-2040 2054 fe33-fe34 fe4d-fe4f ff3f"
  | .space => .ofTable "20 1680 2000-2006 2008-200a 205f 3000"
  | .other => .empty

/-- Classes with members of their own, with their names. -/
def named : List (List String × WordBreak) :=
  [(["CR"], .carriageReturn), (["LF"], .lineFeed), (["Newline", "NL"], .newline),
    (["Extend"], .extend), (["ZWJ"], .zeroWidthJoiner), (["Regional_Indicator", "RI"], .regional),
    (["Format", "FO"], .format), (["Katakana", "KA"], .katakana),
    (["Hebrew_Letter", "HL"], .hebrew), (["ALetter", "LE"], .letter),
    (["Single_Quote", "SQ"], .singleQuote), (["Double_Quote", "DQ"], .doubleQuote),
    (["MidNumLet", "MB"], .midEither), (["MidLetter", "ML"], .midLetter),
    (["MidNum", "MN"], .midNumber), (["Numeric", "NU"], .numeric),
    (["ExtendNumLet", "EX"], .joiner), (["WSegSpace"], .space)]

/-- The characters of the class with a name. -/
def members? (name : String) : Option CharSet :=
  (named.find? fun entry => namedBy name entry.1).map fun entry => entry.2.members

end WordBreak

end Utterance.Unicode

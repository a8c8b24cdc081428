import Utterance.Unicode.Property
import Utterance.Unicode.Named

/-!
# Sentence break classes

The division of text into sentences looks at characters through the classes below, given as of
version 16 of the standard.
-/
namespace Utterance.Unicode

open Utterance.Text (CharSet)

/-- What a character is to the division of text into sentences. -/
inductive SentenceBreak where
  | carriageReturn
  | lineFeed
  /-- Other ends of lines. -/
  | separator
  /-- Marks that belong to the character before them. -/
  | extend
  /-- Characters without width that steer layout. -/
  | format
  | space
  | lower
  | upper
  | otherLetter
  | numeric
  /-- Stops that may end a sentence. -/
  | stop
  /-- Marks that end a sentence. -/
  | terminal
  /-- Marks after which a sentence goes on. -/
  | continuing
  /-- Brackets and quotes. -/
  | bracket
deriving Repr, Inhabited

namespace SentenceBreak

/-- Full stops. -/
def stopSet : CharSet := .ofTable "2e 2024 fe52 ff0e"

/-- Marks that belong to the character before them. -/
def extendSet : CharSet :=
  .unions [Property.graphemeExtendSet, Category.spacingMark.members, .ofTable "200d"]

/-- Letters of lower case, those of a script that uses case for emphasis apart. -/
def lowerSet : CharSet :=
  Property.lowercaseSet.difference
    (Property.graphemeExtendSet.union (.ofTable "10d0-10fa 10fd-10ff"))

/-- Letters of upper case and of title case, those of a script that uses case for emphasis apart. -/
def upperSet : CharSet :=
  (Property.uppercaseSet.union Category.titlecaseLetter.members).difference
    (.ofTable "1c90-1cba 1cbd-1cbf")

/-- Characters of a class. -/
def members : SentenceBreak → CharSet
  | .carriageReturn => .single '\r'
  | .lineFeed => .single '\n'
  | .separator => .ofTable "85 2028-2029"
  | .extend => extendSet
  | .format =>
    .ofTable
      "ad 61c 70f 180e 200b 200e-200f 202a-202e 2060-2064 2066-206f feff fff9-fffb
       13430-1343f 1bca0-1bca3 1d173-1d17a e0001"
  | .space => .ofTable "9 b-c 20 a0 1680 2000-200a 202f 205f 3000"
  | .lower => lowerSet
  | .upper => upperSet
  | .otherLetter =>
    (Property.alphabeticSet.union (.ofTable "5f3")).difference
      (.unions [lowerSet, upperSet, extendSet])
  | .numeric =>
    Category.decimalNumber.members.union
      (.ofTable "600-605 66b-66c 6dd 890-891 8e2 19da 110bd 110cd")
  | .stop => stopSet
  | .terminal => Property.sentenceTerminal.members.difference stopSet
  | .continuing =>
    .ofTable
      "2c-2d 3a-3b 37e 55d 60c-60d 7f8 1802 1808 2013-2014 3001 fe10-fe11 fe13-fe14
       fe31-fe32 fe50-fe51 fe54-fe55 fe58 fe63 ff0c-ff0d ff1a-ff1b ff64"
  | .bracket =>
    (CharSet.unions [Category.openPunctuation.members, Category.closePunctuation.members,
      Property.quotationMark.members, Category.initialPunctuation.members,
      Category.finalPunctuation.members, .ofTable "275b-2760 2e00-2e01 2e06-2e08 2e0b 1f676-1f678"]).difference
      (.ofTable "ff02 ff07")

/-- Classes with their names. -/
def named : List (List String × SentenceBreak) :=
  [(["CR"], .carriageReturn), (["LF"], .lineFeed), (["Sep", "SE"], .separator),
    (["Extend", "EX"], .extend), (["Format", "FO"], .format), (["Sp"], .space),
    (["Lower", "LO"], .lower), (["Upper", "UP"], .upper), (["OLetter", "LE"], .otherLetter),
    (["Numeric", "NU"], .numeric), (["ATerm", "AT"], .stop), (["STerm", "ST"], .terminal),
    (["SContinue", "SC"], .continuing), (["Close", "CL"], .bracket)]

/-- The characters of the class with a name. -/
def members? (name : String) : Option CharSet :=
  (named.find? fun entry => namedBy name entry.1).map fun entry => entry.2.members

end SentenceBreak

end Utterance.Unicode

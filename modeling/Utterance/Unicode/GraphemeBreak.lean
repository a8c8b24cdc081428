import Utterance.Unicode.Property
import Utterance.Unicode.Named

/-!
# Grapheme break classes

The division of text into the units that readers take for characters looks at code points through
the classes below, given as of version 16 of the standard.
-/
namespace Utterance.Unicode

open Utterance.Text (CharSet CharRange)

/-- What a code point is to the division of text into units. -/
inductive GraphemeBreak where
  | carriageReturn
  | lineFeed
  | control
  /-- Marks that belong to the unit before them. -/
  | extend
  | zeroWidthJoiner
  | regional
  /-- Signs that belong to the unit after them. -/
  | prepend
  | spacingMark
  /-- First consonants of Hangul. -/
  | leading
  /-- Vowels of Hangul. -/
  | vowel
  /-- Last consonants of Hangul. -/
  | trailing
  /-- Syllables of Hangul without a last consonant. -/
  | openSyllable
  /-- Syllables of Hangul with a last consonant. -/
  | closedSyllable
deriving Repr, Inhabited

namespace GraphemeBreak

/-- Syllables of Hangul that have no last consonant: the first of each 28. -/
def openSyllables : CharSet :=
  .ofRanges ((List.range 399).map fun count => ⟨0xac00 + 28 * count, 0xac00 + 28 * count⟩)

/-- Code points of a class. -/
def members : GraphemeBreak → CharSet
  | .carriageReturn => .single '\r'
  | .lineFeed => .single '\n'
  | .control =>
    .ofTable
      "0-9 b-c e-1f 7f-9f ad 61c 180e 200b 200e-200f 2028-202e 2060-206f feff fff0-fffb
       13430-1343f 1bca0-1bca3 1d173-1d17a e0000-e001f e0080-e00ff e01f0-e0fff"
  | .extend =>
    (Property.graphemeExtendSet.union Property.emojiModifier.members).difference (.ofTable "200d")
  | .zeroWidthJoiner => .ofTable "200d"
  | .regional => .ofTable "1f1e6-1f1ff"
  | .prepend =>
    .ofTable
      "600-605 6dd 70f 890-891 8e2 d4e 110bd 110cd 111c2-111c3 113d1 1193f 11941 11a3a
       11a84-11a89 11d46 11f02"
  | .spacingMark =>
    .ofTable
      "903 93b 93e-940 949-94c 94e-94f 982-983 9bf-9c0 9c7-9c8 9cb-9cc a03 a3e-a40 a83
       abe-ac0 ac9 acb-acc b02-b03 b40 b47-b48 b4b-b4c bbf bc1-bc2 bc6-bc8 bca-bcc c01-c03
       c41-c44 c82-c83 cbe cc1 cc3-cc4 cf3 d02-d03 d3f-d40 d46-d48 d4a-d4c d82-d83 dd0-dd1
       dd8-dde df2-df3 e33 eb3 f3e-f3f f7f 1031 103b-103c 1056-1057 1084 17b6 17be-17c5
       17c7-17c8 1923-1926 1929-192b 1930-1931 1933-1938 1a19-1a1a 1a55 1a57 1a6d-1a72 1b04
       1b3e-1b41 1b82 1ba1 1ba6-1ba7 1be7 1bea-1bec 1bee 1c24-1c2b 1c34-1c35 1ce1 1cf7
       a823-a824 a827 a880-a881 a8b4-a8c3 a952 a983 a9b4-a9b5 a9ba-a9bb a9be-a9bf aa2f-aa30
       aa33-aa34 aa4d aaeb aaee-aaef aaf5 abe3-abe4 abe6-abe7 abe9-abea abec 11000 11002
       11082 110b0-110b2 110b7-110b8 1112c 11145-11146 11182 111b3-111b5 111bf 111ce
       1122c-1122e 11232-11233 112e0-112e2 11302-11303 1133f 11341-11344 11347-11348
       1134b-1134c 11362-11363 113b9-113ba 113ca 113cc-113cd 11435-11437 11440-11441 11445
       114b1-114b2 114b9 114bb-114bc 114be 114c1 115b0-115b1 115b8-115bb 115be 11630-11632
       1163b-1163c 1163e 116ac 116ae-116af 1171e 11726 1182c-1182e 11838 11931-11935
       11937-11938 11940 11942 119d1-119d3 119dc-119df 119e4 11a39 11a57-11a58 11a97 11c2f
       11c3e 11ca9 11cb1 11cb4 11d8a-11d8e 11d93-11d94 11d96 11ef5-11ef6 11f03 11f34-11f35
       11f3e-11f3f 1612a-1612c 16f51-16f87"
  | .leading => .ofTable "1100-115f a960-a97c"
  | .vowel => .ofTable "1160-11a7 d7b0-d7c6 16d63 16d67-16d6a"
  | .trailing => .ofTable "11a8-11ff d7cb-d7fb"
  | .openSyllable => openSyllables
  | .closedSyllable => (CharSet.ofTable "ac00-d7a3").difference openSyllables

/-- Classes with their names. -/
def named : List (List String × GraphemeBreak) :=
  [(["CR"], .carriageReturn), (["LF"], .lineFeed), (["Control", "CN"], .control),
    (["Extend", "EX"], .extend), (["ZWJ"], .zeroWidthJoiner),
    (["Regional_Indicator", "RI"], .regional), (["Prepend", "PP"], .prepend),
    (["SpacingMark", "SM"], .spacingMark), (["L"], .leading), (["V"], .vowel), (["T"], .trailing),
    (["LV"], .openSyllable), (["LVT"], .closedSyllable)]

/-- The code points of the class with a name. -/
def members? (name : String) : Option CharSet :=
  (named.find? fun entry => namedBy name entry.1).map fun entry => entry.2.members

end GraphemeBreak

end Utterance.Unicode

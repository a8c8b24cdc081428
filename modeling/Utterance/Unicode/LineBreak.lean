import Utterance.Unicode.GraphemeBreak
import Utterance.Unicode.WordBreak

/-!
# Line break classes

Where a line may break depends on the classes of the characters around the place. The classes are
given as of version 16 of the standard, with the choices that it leaves open made: signs of unknown
width count as letters, small kana as characters that may not begin a line, and the letters of
scripts without spaces as letters.
-/
namespace Utterance.Unicode

open Utterance.Text (CharSet)

/-- What a character is to the breaking of lines. -/
inductive LineBreak where
  | carriageReturn
  | lineFeed
  /-- Other ends of lines. -/
  | lineEnd
  | space
  | zeroWidthSpace
  /-- Keeps the characters on both sides together, also across spaces before it. -/
  | wordJoiner
  /-- Keeps the characters on both sides together. -/
  | glue
  /-- Marks that belong to the character before them. -/
  | mark
  | zeroWidthJoiner
  | letter
  | hebrew
  | digit
  | opening
  | closing
  /-- Closing brackets that letters may follow. -/
  | closingBracket
  | exclamation
  /-- Marks inside numbers. -/
  | separator
  | slash
  | quotation
  /-- Signs before a number, as of a currency. -/
  | leadingSign
  /-- Signs after a number, as of a percentage. -/
  | trailingSign
  | hyphen
  /-- A line may break after the character. -/
  | breakAfter
  /-- A line may break before the character. -/
  | breakBefore
  /-- Dashes, before and after which a line may break. -/
  | dash
  | ellipsis
  /-- Characters that may not begin a line. -/
  | nonstarter
  | ideograph
  /-- A place for an object that is not text. -/
  | object
  /-- First consonants of Hangul. -/
  | leadingJamo
  /-- Vowels of Hangul. -/
  | vowelJamo
  /-- Last consonants of Hangul. -/
  | trailingJamo
  /-- Syllables of Hangul without a last consonant. -/
  | openSyllable
  /-- Syllables of Hangul with a last consonant. -/
  | closedSyllable
  | regional
  /-- Pictures that take a modifier. -/
  | pictureBase
  | pictureModifier
  /-- Letters of scripts that stack syllables. -/
  | syllable
  /-- Letters and digits that begin a syllable of such a script. -/
  | syllableStart
  /-- Signs that stand before a syllable. -/
  | beforeSyllable
  /-- Signs that join two syllables. -/
  | virama
  /-- Signs that end a syllable. -/
  | finalVirama
deriving Repr, DecidableEq, Inhabited

namespace LineBreak

/-- Characters of a class; `letter` is what the others leave out. -/
def members : LineBreak → CharSet
  | .carriageReturn => .single '\r'
  | .lineFeed => .single '\n'
  | .lineEnd => .ofTable "b-c 85 2028-2029"
  | .space => .single ' '
  | .zeroWidthSpace => .ofTable "200b"
  | .zeroWidthJoiner => .ofTable "200d"
  | .slash => .single '/'
  | .hyphen => .single '-'
  | .object => .ofTable "fffc"
  | .hebrew => WordBreak.hebrewSet
  | .leadingJamo => GraphemeBreak.leading.members
  | .vowelJamo => GraphemeBreak.vowel.members.difference (.ofTable "16d63 16d67-16d6a")
  | .trailingJamo => GraphemeBreak.trailing.members
  | .openSyllable => GraphemeBreak.openSyllable.members
  | .closedSyllable => GraphemeBreak.closedSyllable.members
  | .regional => Property.regionalIndicator.members
  | .pictureBase => Property.emojiModifierBase.members
  | .pictureModifier => Property.emojiModifier.members
  | .mark =>
    (CharSet.unions [Category.nonspacingMark.members, Category.spacingMark.members,
      Category.enclosingMark.members, Category.format.members, Category.control.members,
      .ofTable "3035"]).difference
      (.ofTable
        "9-d 85 ad 35c-362 600-605 6dd 70f 890-891 8e2 f7f 180e 1b44 1bf2-1bf3 1dcd 1dfc
         200b 200d 2060-2064 a9c0 fe20-fe24/2 fe26-fe27 fe29 fe2b fe2d-fe2e feff 11046 1107f
         110bd 110cd 1134d 113d0 1193e 11f42 13430-1343f 16fe4")
  | .digit =>
    (CharSet.unions [Category.decimalNumber.members, WordBreak.numberSigns,
      .ofTable "66c"]).difference
      (.ofTable
        "1b50-1b59 a9d0-a9d9 aa50-aa59 ff10-ff19 11066-1106f 11950-11959 11f50-11f59
         16130-16139")
  | .opening =>
    Category.openPunctuation.members.union (.ofTable
      "a1 bf 2e18 13258-1325a 13286 13288 13379 1342f 13437 1343c 1343e 145ce 1e95e-1e95f")
  | .closing =>
    (Category.closePunctuation.members.union (.ofTable
      "3001-3002 fe11-fe12 fe50 fe52 ff0c ff0e ff61 ff64 1325b-1325d 13282 13287 13289
       1337a-1337b 13438 1343d 1343f 145cf")).difference
      (.ofTable "29 5d 2e56 2e58 2e5a 2e5c")
  | .quotation =>
    .unions [Category.initialPunctuation.members, Category.finalPunctuation.members,
      .ofTable "22 27 275b-2760 2e00-2e01 2e06-2e08 2e0b 1f676-1f678"]
  | .wordJoiner => .ofTable "2060 feff"
  | .glue =>
    .ofTable
      "a0 35c-362 f08 f0c f12 fd9-fda 180e 1dcd 1dfc 2007 2011 202f fe20-fe24/2 fe26-fe27
       fe29 fe2b fe2d-fe2e 1107f 13430-13436 13439-1343b 16fe4"
  | .closingBracket => .ofTable "29 5d 2e56-2e5c/2"
  | .exclamation =>
    .ofTable
      "21 3f 5c6 61b 61d-61f 6d4 7f9 f0d-f11 f14 1802-1803 1808-1809 1944-1945 2762-2763
       2cf9 2cfe 2e2e 2e53-2e54 a60e a876-a877 fe15-fe16 fe56-fe57 ff01 ff1f 115c4-115c5
       11c71"
  | .separator => .ofTable "2c 2e 3a-3b 37e 589 60c-60d 7f8 2044 fe10 fe13-fe14"
  | .leadingSign =>
    .ofTable
      "24 2b 5c a3-a5 b1 58f 7fe-7ff 9fb af1 bf9 e3f 17db 20a0-20a6 20a8-20b5 20b7-20ba
       20bc-20bd 20bf 20c1-20cf 2116 2212-2213 fe69 ff04 ffe1 ffe5-ffe6 1e2ff"
  | .trailingSign =>
    .ofTable
      "25 a2 b0 609-60b 66a 9f2-9f3 9f9 d79 2030-2037 2057 20a7 20b6 20bb 20be 20c0 2103
       2109 a838 fdfc fe6a ff05 ffe0 11fdd-11fe0 1ecac 1ecb0"
  | .breakAfter =>
    .ofTable
      "9 7c ad 58a 5be 964-965 e5a-e5b f0b f34 f7f f85 fbe-fbf fd2 104a-104b 1361 1400 1680
       16eb-16ed 1735-1736 17d4-17d5 17d8 17da 1804-1805 1b4e-1b4f 1b5a-1b5b 1b5d-1b60
       1b7d-1b7f 1c3b-1c3f 1c7e-1c7f 2000-2006 2008-200a 2010 2012-2013 2027 2056 2058-205b
       205d-205f 2800 2cfa-2cfc 2cff 2d70 2e0e-2e15 2e17 2e19 2e2a-2e2d 2e30-2e31 2e33-2e34
       2e3c-2e3e 2e40-2e41 2e43-2e4a 2e4c 2e4e-2e4f 2e5d 3000 a4fe-a4ff a60d a60f a6f3-a6f7
       a8ce-a8cf a92e-a92f a9c7-a9c9 a9cf aa40-aa42 aa44-aa4b aa5d-aa5f aaf0-aaf1 abeb
       10100-10102 1039f 103d0 10857 1091f 10a50-10a57 10af0-10af5 10b39-10b3f 10d6e 10ead
       11047-11048 110be-110c1 11140-11143 111c5-111c6 111c8 111dd-111df 11238-11239
       1123b-1123c 112a9 1133d 1135d 1144b-1144e 1145a-1145b 115c2-115c3 115c9-115d7
       11641-11642 1173c-1173e 11944-11946 11a41-11a44 11a9a-11a9c 11aa1-11aa2 11c41-11c45
       11ef2 11ef7-11ef8 11f43-11f44 11fff 12470-12474 16a6e-16a6f 16af5 16b37-16b39 16b44
       16d6e-16d6f 16e97-16e98 1bc9f 1da87-1da8a"
  | .breakBefore =>
    .ofTable
      "b4 2c8 2cc 2df c77 c84 f01-f04 f06-f07 f09-f0a fd0-fd1 fd3 1806 1ffd a874-a875 a8fc
       11175 111db 115c1 11660-1166c 119e2 11a3f 11a45 11a9e-11aa0 11b00-11b09 11c70"
  | .dash => .ofTable "2014 2e3a-2e3b"
  | .ellipsis => .ofTable "2024-2026 22ef fe19 10af6"
  | .nonstarter =>
    .ofTable
      "17d6 203c-203d 2047-2049 3005 301c 303b-303c 3041-3049/2 3063 3083-3087/2 308e
       3095-3096 309b-309e 30a0-30a1 30a3-30a9/2 30c3 30e3-30e7/2 30ee 30f5-30f6 30fb-30fe
       31f0-31ff a015 fe54-fe55 ff1a-ff1b ff65 ff67-ff70 ff9e-ff9f 16fe0-16fe3 1b132
       1b150-1b152 1b155 1b164-1b167 1f679-1f67b"
  | .ideograph =>
    .ofTable
      "1b5c 1b61-1b6a 1b74-1b7c 231a-231b 23f0-23f3 2600-2603 2614-2615 2618 261a-261c
       261e-261f 2639-263b 2668 267f 26bd-26c8 26cd 26cf-26d1 26d3-26d4 26d8-26d9 26dc
       26df-26e1 26ea 26f1-26f5 26f7-26f8 26fa 26fd-2704 2708-2709 2764 2e80-2e99 2e9b-2ef3
       2f00-2fd5 2ff0-2fff 3003-3004 3006-3007 3012-3013 3020-3029 3030-3034 3036-303a
       303d-303f 3042-3048/2 304a-3062 3064-3082 3084 3086 3088-308d 308f-3094 309f
       30a2-30a8/2 30aa-30c2 30c4-30e2 30e4 30e6 30e8-30ed 30ef-30f4 30f7-30fa 30ff
       3105-312f 3131-318e 3190-31e5 31ef 3200-321e 3220-3247 3250-4dbf 4e00-a014 a016-a48c
       a490-a4c6 a9c1-a9c6 a9ca-a9cd a9de-a9df aa5c f900-faff fe30-fe34 fe45-fe46 fe49-fe4f
       fe51 fe58 fe5f-fe66 fe68 fe6b ff02-ff03 ff06-ff07 ff0a-ff0b ff0d ff0f-ff19 ff1c-ff1e
       ff20-ff3a ff3c ff3e-ff5a ff5c ff5e ff66 ff71-ff9d ffa0-ffbe ffc2-ffc7 ffca-ffcf
       ffd2-ffd7 ffda-ffdc ffe2-ffe4 11049-1104d 11052-11065 113b7 113d3-113d5 113d7-113d8
       11f45-11f4f 17000-187f7 18800-18aff 18d00-18d08 1b000-1b122 1b170-1b2fb 1f000-1f0ff
       1f1ae-1f1e5 1f200-1f384 1f386-1f39b 1f39e-1f3b4 1f3b7-1f3bb 1f3bd-1f3c1 1f3c5-1f3c6
       1f3c8-1f3c9 1f3cd-1f3fa 1f400-1f441 1f444-1f445 1f451-1f465 1f479-1f47b 1f47d-1f480
       1f484 1f488-1f48e 1f490 1f492-1f49f 1f4a1 1f4a3 1f4a5-1f4a9 1f4ab-1f4ae 1f4b0
       1f4b3-1f4ff 1f507-1f516 1f525-1f531 1f54a-1f573 1f576-1f579 1f57b-1f58f 1f591-1f594
       1f597-1f5d3 1f5dc-1f5f3 1f5fa-1f644 1f648-1f64a 1f680-1f6a2 1f6a4-1f6b3 1f6b7-1f6bf
       1f6c1-1f6cb 1f6cd-1f6ff 1f774-1f77f 1f7d5-1f7ff 1f8d0-1f8d8 1f90d-1f90e 1f910-1f917
       1f920-1f925 1f927-1f92f 1f93a-1f93b 1f93f-1f976 1f978-1f9b4 1f9b7 1f9ba 1f9bc-1f9cc
       1f9d0 1f9de-1f9ff 1fa54-1fac2 1fac6-1faef 1faf9-1faff 1fc00-1fffd 20000-2fffd
       30000-3fffd"
  | .syllable =>
    .ofTable
      "1b05-1b33 1b45-1b4c a984-a9b2 11005-11037 11071-11072 11075 11305-1130c 1130f-11310
       11313-11328 1132a-11330 11332-11333 11335-11339 11360-11361 11392-113b5 11900-11906
       11909 1190c-11913 11915-11916 11918-1192f 11f04-11f10 11f12-11f33"
  | .syllableStart =>
    .ofTable
      "1b50-1b59 1bc0-1be5 a9d0-a9d9 aa00-aa28 aa50-aa59 11066-1106f 11350 1135e-1135f
       11380-11389 1138b 1138e 11390-11391 11950-11959 11ee0-11ef1 11f50-11f59 16100-1611d
       16130-16139"
  | .beforeSyllable => .ofTable "11003-11004 113d1 1193f 11941 11f02"
  | .virama => .ofTable "1b44 a9c0 11046 1134d 113d0 1193e 11f42"
  | .finalVirama => .ofTable "1bf2-1bf3"
  | .letter => .empty

/-- Classes other than letters, in the order in which they are looked up. -/
def tables : List (LineBreak × CharSet) :=
  [.space, .separator, .opening, .closing, .closingBracket, .exclamation, .slash, .quotation,
    .leadingSign, .trailingSign, .hyphen, .digit, .breakAfter, .lineFeed, .carriageReturn, .lineEnd,
    .ideograph, .nonstarter, .glue, .mark, .zeroWidthSpace, .zeroWidthJoiner, .wordJoiner, .hebrew,
    .breakBefore, .dash, .ellipsis, .object, .leadingJamo, .vowelJamo, .trailingJamo, .openSyllable,
    .closedSyllable, .regional, .pictureBase, .pictureModifier, .syllable, .syllableStart,
    .beforeSyllable, .virama, .finalVirama].map fun kind => (kind, kind.members)

/-- The line break class of a character. -/
def ofChar (char : Char) : LineBreak :=
  if char.isAlpha then .letter
  else ((tables.find? fun entry => entry.2.contains char).map (·.1)).getD .letter

end LineBreak

end Utterance.Unicode

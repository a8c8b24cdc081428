import Utterance.Unicode.WordBreak

/-!
# Version 17 of the character database

Patterns follow version 16 of the standard, whose tables stand in the other modules. The division of
text into words, its case and its quoted form follow version 17. This module gives the sets that
those need, each as the set of version 16 with the changes since.
-/
namespace Utterance.Unicode.Current

open Utterance.Text (CharSet)

/-- Code points that version 17 assigned. -/
def assigned : CharSet :=
  .ofTable
    "88f c5c cdc 1acf-1add 1ae0-1aeb 20c1 2b96 a7ce-a7cf a7d2 a7d4 a7f1 fbc3-fbd2 fd90-fd91
     fdc8-fdce 10940-10959 10ec5-10ec7 10ed0-10ed8 10efa-10efb 11b60-11b67 11db0-11ddb
     11de0-11de9 16ea0-16eb8 16ebb-16ed3 16ff2-16ff6 187f8-187ff 18d09-18d1e 18d80-18df2
     1ccfa-1ccfc 1ceba-1ced0 1cee0-1cef0 1e6c0-1e6de 1e6e0-1e6f5 1e6fe-1e6ff 1f6d8
     1f777-1f77a 1f8d0-1f8d8 1fa54-1fa57 1fa8a 1fa8e 1fac8 1facd 1faea 1faef 1fbfa
     2b73a-2b73f 2cea2-2cead 323b0-33479"

/-- Code points without a character. -/
def unassigned : CharSet := Category.unassigned.members.difference assigned

/-- Letters and characters that serve as letters. -/
def alphabetic : CharSet :=
  Property.alphabeticSet.union (.ofTable
    "88f c5c cdc a7ce-a7cf a7d2 a7d4 a7f1 10940-10959 10ec5-10ec7 10efa-10efb 11b60-11b67
     11db0-11ddb 16ea0-16eb8 16ebb-16ed3 16ff2-16ff6 187f8-187ff 18d09-18d1e 18d80-18df2
     1e6c0-1e6de 1e6e0-1e6f5 1e6fe-1e6ff 2b73a-2b73f 2cea2-2cead 323b0-33479")

/-- Characters that stand for a number: decimal digits, letter numbers and other numbers. -/
def numeric : CharSet :=
  .unions [Category.decimalNumber.members, Category.letterNumber.members,
    Category.otherNumber.members, .ofTable "11de0-11de9 16ff4-16ff6"]

/-- Characters with case. -/
def cased : CharSet :=
  (Property.casedSet.difference (.ofTable "295")).union
    (.ofTable "a7ce-a7cf a7d2 a7d4 a7f1 16ea0-16eb8 16ebb-16ed3")

/-- Characters that a test for neighbouring letters passes over. -/
def caseIgnorable : CharSet :=
  Property.caseIgnorableSet.union (.ofTable
    "1acf-1add 1ae0-1aeb a7f1 10ec5 10efa-10efb 11b60 11b62-11b64 11b66 11dd9 16ff2-16ff3
     1e6e3 1e6e6 1e6ee-1e6ef 1e6f5 1e6ff")

/-- Characters that extend the character before them. -/
def graphemeExtend : CharSet :=
  Property.graphemeExtendSet.union (.ofTable
    "1acf-1add 1ae0-1aeb 10efa-10efb 11b60 11b62-11b64 11b66 1e6e3 1e6e6 1e6ee-1e6ef 1e6f5")

/-- Characters that a display without support for them leaves out. -/
def defaultIgnorable : CharSet := Property.defaultIgnorableSet

/-- Pictures, and code points kept for them. -/
def pictographs : CharSet :=
  .ofTable
    "a9 ae 203c 2049 2122 2139 2194-2199 21a9-21aa 231a-231b 2328 23cf 23e9-23f3 23f8-23fa
     24c2 25aa-25ab 25b6 25c0 25fb-25fe 2600-2604 260e 2611 2614-2615 2618 261d 2620
     2622-2623 2626 262a 262e-262f 2638-263a 2640 2642 2648-2653 265f-2660 2663 2665-2666
     2668 267b 267e-267f 2692-2697 2699 269b-269c 26a0-26a1 26a7 26aa-26ab 26b0-26b1
     26bd-26be 26c4-26c5 26c8 26ce-26cf 26d1 26d3-26d4 26e9-26ea 26f0-26f5 26f7-26fa 26fd
     2702 2705 2708-270d 270f 2712-2716/2 271d 2721 2728 2733-2734 2744 2747 274c 274e
     2753-2755 2757 2763-2764 2795-2797 27a1 27b0 27bf 2934-2935 2b05-2b07 2b1b-2b1c 2b50
     2b55 3030 303d 3297 3299 1f004 1f02c-1f02f 1f094-1f09f 1f0af-1f0b0 1f0c0 1f0cf-1f0d0
     1f0f6-1f0ff 1f170-1f171 1f17e-1f17f 1f18e 1f191-1f19a 1f1ae-1f1e5 1f201-1f20f 1f21a
     1f22f 1f232-1f23a 1f23c-1f23f 1f249-1f25f 1f266-1f321 1f324-1f393 1f396-1f397
     1f399-1f39b 1f39e-1f3f0 1f3f3-1f3f5 1f3f7-1f3fa 1f400-1f4fd 1f4ff-1f53d 1f549-1f54e
     1f550-1f567 1f56f-1f570 1f573-1f57a 1f587 1f58a-1f58d 1f590 1f595-1f596 1f5a4-1f5a5
     1f5a8 1f5b1-1f5b2 1f5bc 1f5c2-1f5c4 1f5d1-1f5d3 1f5dc-1f5de 1f5e1 1f5e3 1f5e8 1f5ef
     1f5f3 1f5fa-1f64f 1f680-1f6c5 1f6cb-1f6d2 1f6d5-1f6e5 1f6e9 1f6eb-1f6f0 1f6f3-1f6ff
     1f7da-1f7ff 1f80c-1f80f 1f848-1f84f 1f85a-1f85f 1f888-1f88f 1f8ae-1f8af 1f8bc-1f8bf
     1f8c2-1f8cf 1f8d9-1f8ff 1f90c-1f93a 1f93c-1f945 1f947-1f9ff 1fa58-1fa5f 1fa6e-1faff
     1fc00-1fffd"

/-- Characters that version 17 added to a word break class. -/
def wordBreakAdditions : WordBreak → CharSet
  | .letter =>
    .ofTable
      "b8 88f c5c cdc a7ce-a7cf a7d2 a7d4 a7f1 10940-10959 10ec5-10ec7 11db0-11ddb
       16ea0-16eb8 16ebb-16ed3 1e6c0-1e6de 1e6e0-1e6e2 1e6e4-1e6e5 1e6e7-1e6ed 1e6f0-1e6f4
       1e6fe-1e6ff"
  | .numeric => .ofTable "11de0-11de9"
  | .extend => .ofTable "1acf-1add 1ae0-1aeb 10efa-10efb 11b60-11b67 1e6e3 1e6e6 1e6ee-1e6ef 1e6f5"
  | _ => .empty

/-- Word break classes that have a table, in the order in which they are looked up. -/
def wordBreakTables : List (WordBreak × CharSet) :=
  [.letter, .numeric, .space, .joiner, .midLetter, .midNumber, .midEither, .extend, .format,
    .hebrew, .katakana, .newline, .regional].map fun kind =>
      (kind, kind.members.union (wordBreakAdditions kind))

/-- The word break class of a character. -/
def wordBreak (char : Char) : WordBreak :=
  if char = '\r' then .carriageReturn
  else if char = '\n' then .lineFeed
  else if char = Char.ofNat 0x27 then .singleQuote
  else if char = '"' then .doubleQuote
  else if char.toNat = 0x200d then .zeroWidthJoiner
  else ((wordBreakTables.find? fun entry => entry.2.contains char).map (·.1)).getD .other

end Utterance.Unicode.Current

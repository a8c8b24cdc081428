import Utterance.Unicode.Current

/-!
# Columns of text

How many columns of a terminal a character takes: two for the wide characters of East Asian scripts
and for pictures, none for control characters and for marks that attach to the character before, and
one for nearly all others. Which characters are wide and which attach has changed over time, so the
two sets are the parameters of the measure. Text is filled into lines by the recent measure; lines
of a source are marked by the earlier one.
-/
namespace Utterance.Text

/-- A measure of characters in columns. -/
structure Measure where
  /-- Characters two columns wide. -/
  wide : CharSet
  /-- Characters without a column of their own. -/
  attached : CharSet

namespace Measure

/-- Wide characters as of version 17 of the standard. -/
def recentWide : CharSet := .ofTable
    "1100-115f 17a4 231a-231b 2329-232a 23e9-23ec 23f0 23f3 25fd-25fe 2614-2615 2630-2637
     2648-2653 267f 268a-268f 2693 26a1 26aa-26ab 26bd-26be 26c4-26c5 26ce 26d4 26ea
     26f2-26f3 26f5 26fa 26fd 2705 270a-270b 2728 274c 274e 2753-2755 2757 2795-2797 27b0
     27bf 2b1b-2b1c 2b50 2b55 2e80-2e99 2e9b-2ef3 2f00-2fd5 2ff0-3029 3030-303e 3041-3096
     309b-30ff 3105-312f 3131-3163 3165-318e 3190-31e5 31ef-321e 3220-3247 3250-a48c
     a490-a4c6 a960-a97c ac00-d7a3 f900-faff fe10-fe19 fe30-fe52 fe54-fe66 fe68-fe6b
     ff01-ff60 ffe0-ffe6 16fe0-16fe3 16ff2-16ff6 17000-18cd5 18cff-18d1e 18d80-18df2
     1aff0-1aff3 1aff5-1affb 1affd-1affe 1b000-1b122 1b132 1b150-1b152 1b155 1b164-1b167
     1b170-1b2fb 1d300-1d356 1d360-1d376 1f004 1f0cf 1f18e 1f191-1f19a 1f200-1f202
     1f210-1f23b 1f240-1f248 1f250-1f251 1f260-1f265 1f300-1f320 1f32d-1f335 1f337-1f37c
     1f37e-1f393 1f3a0-1f3ca 1f3cf-1f3d3 1f3e0-1f3f0 1f3f4 1f3f8-1f43e 1f440 1f442-1f4fc
     1f4ff-1f53d 1f54b-1f54e 1f550-1f567 1f57a 1f595-1f596 1f5a4 1f5fb-1f64f 1f680-1f6c5
     1f6cc 1f6d0-1f6d2 1f6d5-1f6d8 1f6dc-1f6df 1f6eb-1f6ec 1f6f4-1f6fc 1f7e0-1f7eb 1f7f0
     1f90c-1f93a 1f93c-1f945 1f947-1f9ff 1fa70-1fa7c 1fa80-1fa8a 1fa8e-1fac6 1fac8
     1facd-1fadc 1fadf-1faea 1faef-1faf8 20000-2fffd 30000-3fffd"

/-- Characters without a column that neither extend the character before them nor are ignorable:
signs that stand over or around what follows, and the later letters of a Hangul syllable. -/
def overlapping : CharSet := .ofTable
    "605 70f 890-891 8e2 d4e 1161-11ff a8fa d7b0-d7c6 d7cb-d7fb 111c2-111c3 113d1 1193f
     11941 11a84-11a89 11d46 11f02"

/-- The measure as of version 17 of the standard. -/
def recent : Measure where
  wide := recentWide
  attached :=
    (CharSet.unions [Unicode.Current.graphemeExtend, Unicode.Current.defaultIgnorable,
      overlapping]).difference (.ofTable "115f 2d7f")

/-- The measure as of version 15.1 of the standard. -/
def earlier : Measure where
  wide :=
    (recentWide.difference (.ofTable
      "2630-2637 268a-268f 31e4-31e5 4dc0-4dff 16ff2-16ff6 187f8-187ff 18cff 18d09-18d1e
       18d80-18df2 1d300-1d356 1d360-1d376 1f6d8 1fa89-1fa8a 1fa8e-1fa8f 1fabe 1fac6 1fac8
       1facd 1fadc 1fadf 1fae9-1faea 1faef")).union
      (.ofTable "16ff0-16ff1")
  attached :=
    (recent.attached.difference (.ofTable
      "897 1715 1734 1acf-1add 1ae0-1aeb 1b44 1baa 1bf2-1bf3 a953 a9c0 10d69-10d6d
       10efa-10efc 111c0 11235 1134d 113b8 113bb-113c0 113c2 113c5 113c7-113c9 113ce-113d2
       113e1-113e2 116b6 1193d 11b60 11b62-11b64 11b66 11f41 11f5a 1611e-16129 1612d-1612f
       16ff0-16ff1 1d166 1d16d 1e5ee-1e5ef 1e6e3 1e6e6 1e6ee-1e6ef 1e6f5")).union
      (.ofTable "1171e 11a3a")

/-- The number of columns that a character takes. One sign stands for a word and takes three. -/
def columns (measure : Measure) (char : Char) : Nat :=
  let code := char.toNat
  if code < 32 || (127 ≤ code && code < 160) then 0
  else if code < 0xad then 1
  else if code = 0x17d8 then 3
  else if measure.wide.contains char then 2
  else if measure.attached.contains char then 0
  else 1

/-- The number of columns that characters take one after another. -/
def columnsOfAll (measure : Measure) (chars : List Char) : Nat :=
  chars.foldl (fun columns char => columns + measure.columns char) 0

end Measure

/-- Columns from one tab stop to the next. -/
def tabWidth : Nat := 4

/-- The columns of each character of a line that starts at a column; a tab reaches to the next tab
stop. An escape character and what follows it, up to a letter m, take no column. -/
def lineColumns (measure : Measure) (column : Nat) (escaped : Bool) : List Char → List Nat
  | [] => []
  | char :: rest =>
    if escaped then 0 :: lineColumns measure column (char ≠ 'm') rest
    else if char = '\x1b' then 0 :: lineColumns measure column true rest
    else
      let width := if char = '\t' then tabWidth - column % tabWidth else measure.columns char
      width :: lineColumns measure (column + width) false rest

end Utterance.Text

import Utterance.Text.Letter
import Utterance.Text.LineBreak
import Utterance.Text.Terminal

/-!
# Wrapping text

Text is filled into lines of bounded width: each line takes as many words as fit. Words are the
parts of a line between the places where it may break; a word with hyphens between letters or digits
is divided after them, and a word wider than a line is cut. The blanks after the last word of a line
are dropped. Terminal sequences take no room.
-/
namespace Utterance.Text

/-- A piece of text that stays on one line, and the blanks after it. -/
structure Word where
  /-- The characters. -/
  chars : List Char
  /-- The blanks. -/
  blanks : List Char
deriving Repr, DecidableEq, Inhabited

namespace Word

/-- The word of some characters and the blanks at their end. -/
def ofChars (chars : List Char) : Word :=
  let blanks := (chars.reverse.takeWhile (· = ' '))
  ⟨chars.take (chars.length - blanks.length), blanks⟩

/-- The columns of a word without its blanks. -/
def width (word : Word) : Nat := Measure.recent.columnsOfAll (shownChars word.chars)

/-- The word with its blanks. -/
def full (word : Word) : List Char := word.chars ++ word.blanks

end Word

/-- Whether a character is a hyphen or marks a place for one. Such places divide words by a rule of
their own. -/
def isHyphen (char : Char) : Bool := char = '-' || char.toNat = 0xad

/-- For each character of a line, given the character before it and whether the line may break
before it, whether a word starts with it. -/
def wordStarts (before : Option Char) : List (Char × Bool) → List Bool
  | [] => []
  | (char, mayBreak) :: rest =>
    (mayBreak && !before.any isHyphen) :: wordStarts (some char) rest

/-- Answers without the last one that holds. -/
def dropLastTrue (answers : List Bool) : List Bool :=
  match answers.reverse.span (! ·) with
  | (others, true :: rest) => rest.reverse ++ false :: others.reverse
  | _ => answers

/-- For each shown character of a line, whether a word starts with it. The last start does not count
if the line ends with a hyphen. -/
def starts (shown : List Char) : List Bool :=
  let found := wordStarts none (shown.zip (breaks shown))
  if shown.getLast?.any isHyphen then dropLastTrue found else found

/-- Divide pieces into words, given the characters of the word under way and the sequences read
since its last shown character, which belong to the word after them. -/
def groupWords (word sequences : List Char) : List Piece → List Bool → List (List Char)
  | [], _ => if (word ++ sequences).isEmpty then [] else [word ++ sequences]
  | .hidden chars :: rest, flags => groupWords word (sequences ++ chars) rest flags
  | .shown char :: rest, flags =>
    if flags.head?.getD false then
      word :: groupWords (sequences ++ [char]) [] rest flags.tail
    else groupWords (word ++ sequences ++ [char]) [] rest flags.tail

/-- The parts of a line between the places where it may break, each with the blanks after it. -/
def breakParts (line : List Char) : List (List Char) :=
  groupWords [] [] (Piece.read line) (starts (shownChars line))

/-- Divide characters after each hyphen that stands between letters or digits; `part` holds the
characters since the last division. -/
def splitHyphens (part : List Char) : List Char → List (List Char)
  | [] => [part]
  | '-' :: next :: rest =>
    if (part.getLast?.any isAlphanumeric) && isAlphanumeric next then
      (part ++ ['-']) :: splitHyphens [] (next :: rest)
    else splitHyphens (part ++ ['-']) (next :: rest)
  | char :: rest => splitHyphens (part ++ [char]) rest

/-- Cut a word into parts no wider than a line; `part` holds the current part, which takes `used`
columns. -/
def cut (limit : Nat) (part : List Char) (used : Nat) : List Piece → List (List Char)
  | [] => [part]
  | .hidden chars :: rest => cut limit (part ++ chars) used rest
  | .shown char :: rest =>
    let width := Measure.recent.columns char
    if 0 < used && limit < used + width then part :: cut limit [char] width rest
    else cut limit (part ++ [char]) (used + width) rest

/-- Pieces as words; the last one takes the blanks. -/
def withBlanks (blanks : List Char) : List (List Char) → List Word
  | [] => []
  | [chars] => [⟨chars, blanks⟩]
  | chars :: rest => ⟨chars, []⟩ :: withBlanks blanks rest

/-- The words of a line, none wider than a limit. -/
def fittingWords (limit : Nat) (line : List Char) : List Word :=
  (breakParts line).flatMap fun part =>
    let word := Word.ofChars part
    (withBlanks word.blanks (splitHyphens [] word.chars)).flatMap fun piece =>
      if limit < piece.width then
        withBlanks piece.blanks (cut limit [] 0 (Piece.read piece.chars))
      else [piece]

/-- Fill words into lines. `line` holds the words of the current line, which take `used` columns
with their blanks. -/
def fill (limit : Nat) (line : List Word) (used : Nat) : List Word → List (List Word)
  | [] => [line]
  | word :: rest =>
    if limit < used + word.width && !line.isEmpty then
      line :: fill limit [word] (word.width + word.blanks.length) rest
    else fill limit (line ++ [word]) (used + word.width + word.blanks.length) rest

/-- The text of a line of words, without the blanks at its end. -/
def lineText : List Word → List Char
  | [] => []
  | [word] => word.chars
  | word :: rest => word.full ++ lineText rest

/-- Fill a text into lines of a limited width. A line feed in the text ends a line. -/
def wrap (limit : Nat) (text : String) : List String :=
  (splitChars '\n' text.toList).flatMap fun line =>
    (fill limit [] 0 (fittingWords limit line)).map fun words => String.ofList (lineText words)

end Utterance.Text

/-!
# Blank characters

The characters with the white space property, and the division of text into the runs between them.
The zero width space and the characters that older standards called separators of information are
not blank.
-/
namespace Utterance.Text

/-- Whether a character is white space. -/
def isBlank (char : Char) : Bool :=
  let code := char.toNat
  (0x9 ≤ code ∧ code ≤ 0xd) || code = 0x20 || code = 0x85 || code = 0xa0 || code = 0x1680 ||
    (0x2000 ≤ code ∧ code ≤ 0x200a) || code = 0x2028 || code = 0x2029 || code = 0x202f ||
    code = 0x205f || code = 0x3000

/-- Nonempty runs of characters between blanks, given the characters of the run under way. -/
def runs (current : List Char) : List Char → List (List Char)
  | [] => if current.isEmpty then [] else [current]
  | char :: rest =>
    if isBlank char then
      if current.isEmpty then runs [] rest else current :: runs [] rest
    else runs (current ++ [char]) rest

/-- Words of a text, divided at blanks only. -/
def splitBlank (text : String) : List String := (runs [] text.toList).map String.ofList

end Utterance.Text

import Utterance.Pattern.Ast
import Utterance.Text.Blank

/-!
# Reading position in a pattern

A cursor holds the characters still to be read and the byte offset of the first of them. When blanks
are ignored, `Cursor.skip` passes over blanks and over comments that run from a number sign to the
end of the line.
-/
namespace Utterance.Pattern

/-- A reading position. -/
structure Cursor where
  /-- Characters still to be read. -/
  rest : List Char
  /-- Byte offset of the first of them. -/
  offset : Nat
deriving Repr, Inhabited

namespace Cursor

/-- The cursor at the start of a text. -/
def ofText (text : String) : Cursor := ⟨text.toList, 0⟩

/-- Whether nothing is left. -/
def atEnd (cursor : Cursor) : Bool := cursor.rest.isEmpty

/-- The next character. -/
def char? (cursor : Cursor) : Option Char := cursor.rest.head?

/-- Whether the next character is the given one. -/
def sees (cursor : Cursor) (char : Char) : Bool := cursor.rest.head? == some char

/-- The cursor after the next character. -/
def bump (cursor : Cursor) : Cursor :=
  match cursor.rest with
  | [] => cursor
  | char :: rest => ⟨rest, cursor.offset + char.utf8Size⟩

/-- The empty part at the cursor. -/
def here (cursor : Cursor) : Part := ⟨cursor.offset, cursor.offset⟩

/-- The part that the next character takes up. -/
def charPart (cursor : Cursor) : Part := ⟨cursor.offset, cursor.bump.offset⟩

/-- The part from an offset up to the cursor. -/
def since (cursor : Cursor) (start : Nat) : Part := ⟨start, cursor.offset⟩

/-- The cursor after blanks and comments; `comment` says whether a comment is under way. -/
def skipFrom (comment : Bool) : List Char → Nat → Cursor
  | [], offset => ⟨[], offset⟩
  | char :: rest, offset =>
    if comment then skipFrom (char ≠ '\n') rest (offset + char.utf8Size)
    else if Text.isBlank char then skipFrom false rest (offset + char.utf8Size)
    else if char = '#' then skipFrom true rest (offset + char.utf8Size)
    else ⟨char :: rest, offset⟩

/-- The cursor after blanks and comments, where these are ignored. -/
def skip (cursor : Cursor) (blanks : Bool) : Cursor :=
  if blanks then skipFrom false cursor.rest cursor.offset else cursor

/-- The cursor after the next character and what is ignored behind it. -/
def next (cursor : Cursor) (blanks : Bool) : Cursor := cursor.bump.skip blanks

/-- The cursor after blanks, in any mode. -/
def dropBlanks (cursor : Cursor) : Cursor :=
  go cursor.rest cursor.offset
where
  /-- Pass over blanks. -/
  go : List Char → Nat → Cursor
    | [], offset => ⟨[], offset⟩
    | char :: rest, offset =>
      if Text.isBlank char then go rest (offset + char.utf8Size) else ⟨char :: rest, offset⟩

/-- The cursor after some characters, if they come next. -/
def after? (cursor : Cursor) (text : List Char) : Option Cursor :=
  if text.isPrefixOf cursor.rest then
    some (text.foldl (fun current _ => current.bump) cursor)
  else none

/-- The first character after the next one that is no blank; where blanks are ignored, a number sign
is passed over too, and at the end of the pattern the character right after counts. -/
def peekSpaced? (cursor : Cursor) (blanks : Bool) : Option Char :=
  let following := cursor.rest.tail
  if blanks then
    match following.dropWhile Text.isBlank with
    | [] => following.head?
    | '#' :: rest =>
      match rest.dropWhile Text.isBlank with
      | [] => following.head?
      | char :: _ => some char
    | char :: _ => some char
  else following.head?

/-- Characters of a kind, with ignored ones between them left out, and the cursor after them; `fuel`
bounds their number. -/
def takeSpaced (blanks : Bool) (accept : Char → Bool) : (fuel : Nat) → Cursor → List Char × Cursor
  | 0, cursor => ([], cursor)
  | fuel + 1, cursor =>
    match cursor.char? with
    | none => ([], cursor)
    | some char =>
      if accept char then
        let (taken, after) := takeSpaced blanks accept fuel (cursor.next blanks)
        (char :: taken, after)
      else ([], cursor)

/-- Characters of a kind, with ignored ones between them left out, and the cursor after them. -/
def takeWhile (cursor : Cursor) (blanks : Bool) (accept : Char → Bool) : List Char × Cursor :=
  takeSpaced blanks accept cursor.rest.length cursor

end Cursor

/-- A fault at a part of the pattern. -/
def faultAt {α : Type} (fault : Fault) (part : Part) : Except Problem α :=
  .error ⟨fault, some part⟩

end Utterance.Pattern

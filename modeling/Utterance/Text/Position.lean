/-!
# Lines and columns

Where a byte of a text stands: the number of line feeds before it, and the bytes between the last of
them and the byte.
-/
namespace Utterance.Text

/-- A place in a text: lines and bytes of the line before it. -/
structure Position where
  /-- Lines before the place. -/
  line : Nat
  /-- Bytes of its line before the place. -/
  column : Nat
deriving Repr, DecidableEq, Inhabited

/-- The place some bytes after another, given the characters from there on. A place inside a
character counts the bytes of the character before it. -/
def Position.after (position : Position) : (bytes : Nat) → List Char → Position
  | 0, _ => position
  | _, [] => position
  | bytes, char :: rest =>
    let next : Position := if char = '\n' then ⟨position.line + 1, 0⟩
      else ⟨position.line, position.column + min bytes char.utf8Size⟩
    next.after (bytes - char.utf8Size) rest

/-- The place of a byte of a text. -/
def positionOf (text : String) (offset : Nat) : Position :=
  Position.after ⟨0, 0⟩ offset text.toList

end Utterance.Text

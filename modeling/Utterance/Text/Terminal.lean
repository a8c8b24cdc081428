/-!
# Terminal sequences

Text for a terminal may hold sequences that steer it and take no room. A sequence starts with the
escape character. After a bracket it goes on to a final character, one of `@` to `~`; after a
closing bracket it goes on to a bell or to an escape and a backslash; and else it is the escape and
one character more.
-/
namespace Utterance.Text

/-- A part of a text for a terminal. -/
inductive Piece where
  /-- A character that is shown. -/
  | shown (char : Char)
  /-- A sequence that steers the terminal. -/
  | hidden (chars : List Char)
deriving Repr, DecidableEq, Inhabited

namespace Piece

/-- What of a sequence has been read. -/
inductive Progress where
  /-- Nothing: the text is shown. -/
  | outside
  /-- The escape character. -/
  | opened
  /-- The start of a sequence that a final character ends. -/
  | control
  /-- The start of a command, and whether its last character is an escape. -/
  | command (escaped : Bool)
deriving Repr, DecidableEq, Inhabited

/-- The pieces of a text, given the characters of the sequence under way. -/
def readFrom (progress : Progress) (sequence : List Char) : List Char → List Piece
  | [] => if progress = .outside then [] else [.hidden sequence]
  | char :: rest =>
    let whole := sequence ++ [char]
    match progress with
    | .outside =>
      if char = '\x1b' then readFrom .opened [char] rest
      else .shown char :: readFrom .outside [] rest
    | .opened =>
      if char = '[' then readFrom .control whole rest
      else if char = ']' then readFrom (.command false) whole rest
      else .hidden whole :: readFrom .outside [] rest
    | .control =>
      if '@' ≤ char ∧ char ≤ '~' then .hidden whole :: readFrom .outside [] rest
      else readFrom .control whole rest
    | .command escaped =>
      if char = '\x07' || (escaped && char = '\\') then .hidden whole :: readFrom .outside [] rest
      else readFrom (.command (char = '\x1b')) whole rest

/-- The pieces of a text; joined together they are the text. -/
def read (text : List Char) : List Piece := readFrom .outside [] text

/-- The characters of a piece. -/
def chars : Piece → List Char
  | .shown char => [char]
  | .hidden chars => chars

/-- The character that a piece shows. -/
def shown? : Piece → Option Char
  | .shown char => some char
  | .hidden _ => none

end Piece

/-- The characters of a text that a terminal shows. -/
def shownChars (text : List Char) : List Char := (Piece.read text).filterMap Piece.shown?

end Utterance.Text

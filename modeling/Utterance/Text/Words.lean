import Utterance.Text.Letter

/-!
# Words of a text

Text falls into segments, read from left to right by a machine. Its state says what the segment
holds so far, and a character either continues the segment or starts the next one. Marks and other
ignored characters always continue it. A segment may have to go on with a letter or a digit, as
after an apostrophe; if it does not, it ends before the apostrophe. The words of a text are the
segments that hold a letter or a digit, so punctuation and spacing are dropped while an apostrophe
or a decimal point inside a word is kept.
-/
namespace Utterance.Text

open Utterance.Unicode (WordBreak)

namespace Words

/-- What a segment holds so far. -/
inductive State where
  /-- It ends with a letter. -/
  | letter
  /-- It ends with a Hebrew letter. -/
  | hebrew
  /-- It ends with a digit. -/
  | numeric
  /-- It ends with katakana. -/
  | katakana
  /-- It ends with a low line or the like. -/
  | joiner
  /-- It is one regional indicator. -/
  | halfFlag
  /-- It is a pair of regional indicators. -/
  | flag
  /-- It is a run of spaces. -/
  | space
  /-- It ends with a picture, joined to what stands before. -/
  | picture
  /-- It is complete, marks apart. -/
  | closed
  /-- It ends with an apostrophe after a Hebrew letter. -/
  | quote
  /-- It has to go on with a letter. -/
  | beforeLetter
  /-- It has to go on with a Hebrew letter. -/
  | beforeHebrew
  /-- It has to go on with a digit. -/
  | beforeDigit
deriving Repr, DecidableEq, Inhabited

/-- Characters that count as part of the character before them. -/
def isIgnored (kind : WordBreak) : Bool := kind matches .extend | .format | .zeroWidthJoiner

namespace State

/-- Whether the segment has to go on. -/
def pending (state : State) : Bool := state matches .beforeLetter | .beforeHebrew | .beforeDigit

/-- The state after a letter, a digit or a low line that may continue most segments. -/
def ofWordChar : WordBreak → Option State
  | .letter => some .letter
  | .hebrew => some .hebrew
  | .numeric => some .numeric
  | .joiner => some .joiner
  | _ => none

/-- The state after one more character that is not ignored, or none if the character starts a
segment of its own. Spaces continue each other only while no mark stands among them. -/
def next (state : State) (marked : Bool) (kind : WordBreak) : Option State :=
  match state, kind with
  | .space, .space => if marked then none else some .space
  | .letter, .midLetter | .letter, .midEither | .letter, .singleQuote => some .beforeLetter
  | .letter, _ => ofWordChar kind
  | .hebrew, .doubleQuote => some .beforeHebrew
  | .hebrew, .singleQuote => some .quote
  | .hebrew, .midLetter | .hebrew, .midEither => some .beforeLetter
  | .hebrew, _ => ofWordChar kind
  | .numeric, .midEither | .numeric, .midNumber | .numeric, .singleQuote => some .beforeDigit
  | .numeric, _ => ofWordChar kind
  | .katakana, .katakana => some .katakana
  | .katakana, .joiner => some .joiner
  | .joiner, .katakana => some .katakana
  | .joiner, _ => ofWordChar kind
  | .halfFlag, .regional => some .flag
  | .beforeDigit, .numeric => some .numeric
  | .beforeLetter, .letter | .quote, .letter => some .letter
  | .beforeLetter, .hebrew | .quote, .hebrew | .beforeHebrew, .hebrew => some .hebrew
  | _, _ => none

/-- The state after the first character of a segment; line ends are segments of their own. -/
def first : WordBreak → State
  | .letter => .letter
  | .hebrew => .hebrew
  | .numeric => .numeric
  | .katakana => .katakana
  | .joiner => .joiner
  | .regional => .halfFlag
  | .space => .space
  | _ => .closed

end State

/-- The number of characters of a segment, given its state and the text after its first `size`
characters. `joined` says whether a zero width joiner stands right before that text, `marked`
whether the segment holds an ignored character, and `complete` is the size that the segment has if
it does not go on as it has to. -/
def sizeFrom (state : State) (joined marked : Bool) (size complete : Nat) : List Char → Nat
  | [] => if state.pending then complete else size
  | char :: rest =>
    let kind := Unicode.Current.wordBreak char
    if isIgnored kind then
      sizeFrom state (kind = .zeroWidthJoiner) true (size + 1) complete rest
    else if joined && Unicode.Current.pictographs.contains char then
      sizeFrom .picture false marked (size + 1) complete rest
    else
      match state.next marked kind with
      | some after =>
        sizeFrom after false marked (size + 1) (if after.pending then size else complete) rest
      | none => if state.pending then complete else size

/-- The number of characters after the first one in the segment that a character starts. -/
def extent (char : Char) (rest : List Char) : Nat :=
  match Unicode.Current.wordBreak char with
  | .carriageReturn => if rest.head? = some '\n' then 1 else 0
  | .lineFeed | .newline => 0
  | kind => sizeFrom (.first kind) (kind = .zeroWidthJoiner) false 1 1 rest - 1

/-- Segments of a text; joined together they are the text. -/
def segments : List Char → List (List Char)
  | [] => []
  | char :: rest =>
    (char :: rest.take (extent char rest)) :: segments (rest.drop (extent char rest))
termination_by text => text.length
decreasing_by simp only [List.length_drop, List.length_cons]; omega

end Words

/-- Words of a text: its segments that hold a letter or a digit. -/
def words (text : String) : List String :=
  ((Words.segments text.toList).filter (·.any isAlphanumeric)).map String.ofList

end Utterance.Text

import Utterance.Text.CharSet

/-!
# Regular expressions

A regular expression denotes a relation between positions of a text: it leads from a position to
each position at which a match that begins there can end. `Regex.reach` computes the positions that
can be reached from a set of positions, so nothing is tried twice and no match is lost.
`Regex.acceptsAll` holds when the end of the text can be reached from its start.
-/
namespace Utterance.Pattern

open Utterance.Text (CharSet)

/-- A test of a position by the characters around it. -/
inductive Look where
  | textStart
  | textEnd
  | lineStart
  | lineEnd
  /-- The start of a line, where a carriage return and a line feed end a line together or alone. -/
  | crlfStart
  | crlfEnd
  | wordBoundary
  | notWordBoundary
  | wordStart
  | wordEnd
  | wordStartHalf
  | wordEndHalf
deriving Repr, DecidableEq, Inhabited

/-- A regular expression over characters. -/
inductive Regex where
  | empty
  | chars (set : CharSet)
  | look (kind : Look)
  | concat (first second : Regex)
  | alternate (first second : Regex)
  | repetition (inner : Regex) (min : Nat) (max : Option Nat)
deriving Repr, Inhabited

/-- Whether a character counts as part of a word in tests of position. -/
def isWordChar (char : Char) : Bool := char.isAlphanum || char = '_'

/-- Whether a test holds between two neighbouring characters. -/
def Look.holds (kind : Look) (before after : Option Char) : Bool :=
  let wordBefore := before.any isWordChar
  let wordAfter := after.any isWordChar
  match kind with
  | .textStart => before.isNone
  | .textEnd => after.isNone
  | .lineStart => before.all (· = '\n')
  | .lineEnd => after.all (· = '\n')
  | .crlfStart =>
    before.all fun char => char = '\n' || (char = '\r' && after ≠ some '\n')
  | .crlfEnd =>
    after.all fun char => char = '\r' || (char = '\n' && before ≠ some '\r')
  | .wordBoundary => wordBefore != wordAfter
  | .notWordBoundary => wordBefore == wordAfter
  | .wordStart => !wordBefore && wordAfter
  | .wordEnd => wordBefore && !wordAfter
  | .wordStartHalf => !wordBefore
  | .wordEndHalf => !wordAfter

/-- Positions in ascending order, each once. -/
abbrev Positions := List Nat

/-- Positions of either list. -/
def mergePositions : Positions → Positions → Positions
  | [], right => right
  | left, [] => left
  | first :: left, second :: right =>
    if first < second then first :: mergePositions left (second :: right)
    else if second < first then second :: mergePositions (first :: left) right
    else first :: mergePositions left right
termination_by left right => left.length + right.length

/-- Apply a step a number of times; the rest of the steps are left out once they change nothing. -/
def stepTimes (step : Positions → Positions) : (count : Nat) → Positions → Positions
  | 0, positions => positions
  | count + 1, positions =>
    let next := step positions
    if next = positions then positions else stepTimes step count next

/-- Positions that some number of steps up to `count` reaches, where `reached` holds those known
already and `frontier` those found last. -/
def stepUpTo (step : Positions → Positions) : (count : Nat) → (reached frontier : Positions) →
    Positions
  | 0, reached, _ => reached
  | count + 1, reached, frontier =>
    let found := (step frontier).filter fun position => !reached.contains position
    if found.isEmpty then reached else stepUpTo step count (mergePositions reached found) found

/-- Positions that an expression leads to from some positions of a text. -/
def Regex.reach (text : Array Char) : Regex → Positions → Positions
  | .empty, positions => positions
  | .chars set, positions =>
    positions.filterMap fun position =>
      if text[position]?.any set.contains then some (position + 1) else none
  | .look kind, positions =>
    positions.filter fun position =>
      kind.holds (if position = 0 then none else text[position - 1]?) text[position]?
  | .concat first second, positions => second.reach text (first.reach text positions)
  | .alternate first second, positions =>
    mergePositions (first.reach text positions) (second.reach text positions)
  | .repetition inner min max, positions =>
    let start := stepTimes (inner.reach text) min positions
    let more := match max with
      | some max => Nat.min (max - min) (text.size + 1)
      | none => text.size + 1
    stepUpTo (inner.reach text) more start start

/-- Whether an expression matches a text from its start to its end. -/
def Regex.acceptsAll (regex : Regex) (text : String) : Bool :=
  let chars := text.toList.toArray
  (regex.reach chars [0]).contains chars.size

end Utterance.Pattern

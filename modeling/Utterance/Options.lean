/-!
# Options

`CasePolicy` is fixed when a grammar is built, because terminals are prepared for it. `MatchOptions`
belongs to one parser and may differ from call to call. The skip budget bounds the noise before a
terminal: `SkipBudget.searchLimit` is where the search for a terminal ends.
-/
namespace Utterance

/-- How terminals compare the text of tokens. -/
inductive CasePolicy where
  | insensitive
  | sensitive
deriving Repr, DecidableEq, Inhabited

/-- How many tokens of noise may be skipped before one terminal. -/
inductive SkipBudget where
  /-- The whole rest of the input may be skipped. -/
  | unlimited
  /-- At most this many tokens may be skipped. -/
  | limited (count : Nat)
deriving Repr, DecidableEq, Inhabited

/-- The greatest count: positions and bounds saturate here. -/
def maxCount : Nat := 18446744073709551615

/-- The position, not itself included, at which a terminal that is searched for from `position`
in `length` tokens is given up. -/
def SkipBudget.searchLimit : SkipBudget → (position length : Nat) → Nat
  | .unlimited, _, length => length
  | .limited count, position, length =>
    min (min (min (position + count) maxCount + 1) maxCount) length

/-- Which matches of a choice come first. -/
inductive ChoiceOrder where
  /-- Alternatives in the order in which they are declared. -/
  | declared
  /-- Matches that end later, and alternatives in declared order among equals. -/
  | longest
deriving Repr, DecidableEq, Inhabited

/-- Which parse comes first. -/
inductive ParseMode where
  /-- The first one found. -/
  | first
  /-- The one that consumes most of the input, with the least noise inside. -/
  | widest
deriving Repr, DecidableEq, Inhabited

/-- Options of one parser. -/
structure MatchOptions where
  /-- Noise allowed before a terminal. -/
  skipBudget : SkipBudget := .unlimited
  /-- Order of the matches of a choice. -/
  choiceOrder : ChoiceOrder := .declared
  /-- Order of the parses. -/
  mode : ParseMode := .first
  /-- How many parses are given at most. -/
  maxParses : Option Nat := none
  /-- How many solved pairs of element and position are kept before the search is cut short. -/
  maxMemoEntries : Option Nat := none
deriving Repr, DecidableEq, Inhabited

end Utterance

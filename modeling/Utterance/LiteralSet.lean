import Utterance.Options
import Utterance.Text.Blank
import Utterance.Text.Casing

/-!
# Literal sets

A literal set holds words and phrases. Members are brought to a common form, one blank between
words, and are kept in order without repetition. For matching, each member is a list of words folded
by the case policy; `LiteralSet.matchEnds` lists where members that start at a given token end, the
longest first.
-/
namespace Utterance

/-- Text in the form in which literals are compared. -/
def CasePolicy.fold : CasePolicy → String → String
  | .insensitive, text => Text.lowercase text
  | .sensitive, text => text

/-- A set of literal words and phrases. -/
structure LiteralSet where
  /-- Members with single blanks between words, in order and without repetition. -/
  members : List String
  /-- Folded words of each member, members with more words first. -/
  words : List (List String)
deriving Repr, DecidableEq, Inhabited

namespace LiteralSet

/-- Each entry of a list once, for a list whose equal entries stand side by side. -/
def dedup {α : Type} [BEq α] : List α → List α
  | [] => []
  | [entry] => [entry]
  | entry :: next :: rest =>
    if entry == next then dedup (next :: rest) else entry :: dedup (next :: rest)

/-- Whether a list of words comes no later than another, compared word by word. -/
def inOrder : List String → List String → Bool
  | [], _ => true
  | _ :: _, [] => false
  | left :: lefts, right :: rights =>
    if left = right then inOrder lefts rights else decide (left < right)

/-- Whether a list of words comes no later than another: more words first, then word by word. -/
def wordsLe (left right : List String) : Bool :=
  decide (right.length < left.length) || (left.length == right.length && inOrder left right)

/-- Words of a member. -/
def memberWords (member : String) : List String := Text.splitBlank member

/-- A member with single blanks between its words. -/
def normalize (member : String) : String := " ".intercalate (memberWords member)

/-- The set of the given members; blank members are dropped. -/
def ofMembers (case : CasePolicy) (members : List String) : LiteralSet :=
  let declared := dedup (((members.map normalize).filter (· ≠ "")).mergeSort
    fun left right => decide (left ≤ right))
  { members := declared
    words := dedup ((declared.map fun member => (memberWords member).map case.fold).mergeSort
      wordsLe) }

/-- Whether the set has no member. -/
def isEmpty (set : LiteralSet) : Bool := set.members.isEmpty

/-- Where the members that start at token `start` end, the longest first; `folded` holds the folded
text of every token. -/
def matchEnds (set : LiteralSet) (folded : List String) (start : Nat) : List Nat :=
  let rest := folded.drop start
  ((set.words.filter fun words => words.isPrefixOf rest).map (start + ·.length)).eraseDups

end LiteralSet

end Utterance

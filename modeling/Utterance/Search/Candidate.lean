/-!
# Candidates

A candidate is one way in which an element matches tokens: where the match starts and stops, how
many tokens its terminals consume, and the candidates of its children. Candidates compete when they
stop at the same place: `offer` keeps the one that consumes more tokens, then the one with less
noise inside, and otherwise the earlier one. The slot of a candidate that is replaced keeps its
place, so the order of preference among different stops never changes.
-/
namespace Utterance

/-- The tokens that a match reaches over. -/
structure Extent where
  /-- The first token consumed, or the place of an empty match. -/
  start : Nat
  /-- The token after the last one consumed. -/
  stop : Nat
  /-- How many tokens are consumed. -/
  consumed : Nat
deriving Repr, DecidableEq, Inhabited

namespace Extent

/-- Tokens between start and stop that are not consumed. -/
def noise (extent : Extent) : Nat := extent.stop - extent.start - extent.consumed

/-- Whether one extent is better than another: it consumes more, or as much with less noise. -/
def outranks (left right : Extent) : Bool :=
  right.consumed < left.consumed || (left.consumed == right.consumed && left.noise < right.noise)

end Extent

/-- Add an item unless one with the same stop is held that is as good; a held item that is worse is
replaced in its slot. -/
def offer {α : Type} (extent : α → Extent) (item : α) : List α → List α
  | [] => [item]
  | held :: rest =>
    if (extent held).stop = (extent item).stop then
      (if (extent item).outranks (extent held) then item else held) :: rest
    else held :: offer extent item rest

/-- Offer items one after another. -/
def offerAll {α : Type} (extent : α → Extent) (held items : List α) : List α :=
  items.foldl (fun found item => offer extent item found) held

/-- One match of one element. -/
structure Candidate where
  /-- The place of the element in its grammar. -/
  element : Nat
  /-- The tokens it reaches over. -/
  extent : Extent
  /-- The matches of the element's children. -/
  children : List Candidate
deriving Repr, Inhabited

namespace Candidate

/-- The first token consumed. -/
def start (candidate : Candidate) : Nat := candidate.extent.start

/-- The token after the last one consumed. -/
def stop (candidate : Candidate) : Nat := candidate.extent.stop

/-- How many tokens are consumed. -/
def consumed (candidate : Candidate) : Nat := candidate.extent.consumed

/-- Whether the match takes no tokens. -/
def isEmpty (candidate : Candidate) : Bool := candidate.stop ≤ candidate.start

/-- A match of a terminal. -/
def terminal (element start stop : Nat) : Candidate :=
  ⟨element, ⟨start, stop, stop - start⟩, []⟩

/-- The extent of consecutive matches that were searched for from a position: it starts with the
first match that is not empty and stops with the last match. -/
def spanOf (position : Nat) (children : List Candidate) : Extent :=
  let stop := (children.getLast?.map stop).getD position
  let start := ((children.find? fun child => !child.isEmpty).map start).getD position
  ⟨if stop = position then position else start, stop, (children.map consumed).foldr (· + ·) 0⟩

/-- A match made of the matches of children, searched for from a position. -/
def node (element position : Nat) (children : List Candidate) : Candidate :=
  ⟨element, spanOf position children, children⟩

end Candidate

/-- Consecutive matches that may grow into a match of a sequence or repetition. -/
structure Chain where
  /-- The start of the first match that is not empty, once there is one. -/
  start : Option Nat
  /-- Where the last match stops. -/
  stop : Nat
  /-- How many tokens are consumed. -/
  consumed : Nat
  /-- The matches in order. -/
  children : List Candidate
deriving Repr, Inhabited

namespace Chain

/-- The chain without matches at a position. -/
def empty (position : Nat) : Chain := ⟨none, position, 0, []⟩

/-- The chain with one more match. -/
def extend (chain : Chain) (candidate : Candidate) : Chain where
  start := chain.start.orElse fun _ => if candidate.isEmpty then none else some candidate.start
  stop := candidate.stop
  consumed := chain.consumed + candidate.consumed
  children := chain.children ++ [candidate]

/-- The tokens that a chain reaches over. -/
def extent (chain : Chain) : Extent := ⟨chain.start.getD chain.stop, chain.stop, chain.consumed⟩

/-- The chain as a match of an element that was searched for from a position. -/
def toCandidate (element position : Nat) (chain : Chain) : Candidate :=
  .node element position chain.children

end Chain

end Utterance

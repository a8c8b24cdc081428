import Utterance.Search.Memo

/-!
# Parse trees

A candidate of the start symbol becomes a tree of spans. A span names its element and tells which
tokens it covers, the words of a terminal, and the tokens of noise between its children. A parse
tree adds the noise before and after the root, so every token is either in a leaf or noise.
-/
namespace Utterance

/-- One matched element: the tokens it covers and the spans of its children. -/
structure MatchSpan where
  /-- The place of the element in its grammar. -/
  element : Nat
  /-- The name of the element. -/
  name : String
  /-- The first token consumed. -/
  start : Nat
  /-- The token after the last one consumed. -/
  stop : Nat
  /-- The matched words, for terminals only. -/
  text : Option String
  /-- Tokens of noise between the children. -/
  skipped : List Nat
  /-- Spans of the children. -/
  children : List MatchSpan
deriving Repr, Inhabited

namespace MatchSpan

/-- Whether the span covers no tokens. -/
def isEmpty (span : MatchSpan) : Bool := span.start == span.stop

/-- Whether tokens match the element directly. -/
def isTerminal (span : MatchSpan) : Bool := span.text.isSome

/-- Places from one up to another that is not included. -/
def places (start stop : Nat) : List Nat := List.range' start (stop - start)

/-- Places between matches that are not empty, given where the last such match stopped. -/
def gapsBetween (previous : Option Nat) : List Candidate → List Nat
  | [] => []
  | child :: rest =>
    if child.isEmpty then gapsBetween previous rest
    else
      (previous.elim [] fun stop => places stop child.start) ++ gapsBetween (some child.stop) rest

/-- The words of tokens from one place up to another, with blanks between them. -/
def wordsBetween (tokens : List Token) (start stop : Nat) : String :=
  " ".intercalate (((tokens.drop start).take (stop - start)).map (·.text))

mutual

/-- The span of a candidate. -/
def ofCandidate (elements : List Element) (tokens : List Token) : Candidate → MatchSpan
  | ⟨element, extent, children⟩ =>
    { element
      name := elementName elements element
      start := extent.start
      stop := extent.stop
      text := if elements[element]?.any (·.kind.isTerminal) then
          some (wordsBetween tokens extent.start extent.stop)
        else none
      skipped := gapsBetween none children
      children := ofCandidates elements tokens children }

/-- The spans of candidates. -/
def ofCandidates (elements : List Element) (tokens : List Token) : List Candidate → List MatchSpan
  | [] => []
  | child :: rest => ofCandidate elements tokens child :: ofCandidates elements tokens rest

end

mutual

/-- The spans of terminals, from left to right. -/
def leaves : MatchSpan → List MatchSpan
  | ⟨element, name, start, stop, some text, skipped, children⟩ =>
    [⟨element, name, start, stop, some text, skipped, children⟩]
  | ⟨_, _, _, _, none, _, children⟩ => leavesOfAll children

/-- The spans of terminals in several spans. -/
def leavesOfAll : List MatchSpan → List MatchSpan
  | [] => []
  | child :: rest => leaves child ++ leavesOfAll rest

end

mutual

/-- Noise inside a span and inside the spans below it, in the order of the tree. -/
def innerNoise : MatchSpan → List Nat
  | ⟨_, _, _, _, _, skipped, children⟩ => skipped ++ innerNoiseOfAll children

/-- Noise inside several spans. -/
def innerNoiseOfAll : List MatchSpan → List Nat
  | [] => []
  | child :: rest => innerNoise child ++ innerNoiseOfAll rest

end

/-- How many tokens the terminals consume. -/
def consumed (span : MatchSpan) : Nat :=
  (span.leaves.map fun leaf => leaf.stop - leaf.start).foldr (· + ·) 0

/-- Every place of noise inside the span, in order. -/
def noise (span : MatchSpan) : List Nat := span.innerNoise.mergeSort

end MatchSpan

/-- A match of the start symbol in a list of tokens. -/
structure ParseTree where
  /-- The span of the start symbol. -/
  root : MatchSpan
  /-- The tokens. -/
  tokens : List Token
  /-- Noise before the first token consumed. -/
  leadingNoise : List Nat
  /-- Noise after the last token consumed; all tokens, if none is consumed. -/
  trailingNoise : List Nat
deriving Repr, Inhabited

namespace ParseTree

/-- The tree around a root span. -/
def ofRoot (root : MatchSpan) (tokens : List Token) : ParseTree :=
  if root.isEmpty then
    { root, tokens, leadingNoise := [], trailingNoise := List.range tokens.length }
  else
    { root, tokens
      leadingNoise := List.range root.start
      trailingNoise := MatchSpan.places root.stop tokens.length }

/-- The words consumed by terminals, in order. -/
def leafWords (tree : ParseTree) : List String :=
  tree.root.leaves.flatMap fun leaf =>
    ((tree.tokens.drop leaf.start).take (leaf.stop - leaf.start)).map (·.text)

/-- Every place of noise, in order. -/
def noise (tree : ParseTree) : List Nat :=
  (tree.leadingNoise ++ tree.root.noise ++ tree.trailingNoise).mergeSort

/-- The words of the noise. -/
def noiseWords (tree : ParseTree) : List String :=
  tree.noise.filterMap fun place => tree.tokens[place]?.map (·.text)

end ParseTree

/-- The parse trees of tokens, the preferred one first. -/
def Grammar.trees (grammar : Grammar) (options : MatchOptions) (tokens : List Token) :
    List ParseTree :=
  (grammar.roots options tokens).map fun candidate =>
    .ofRoot (.ofCandidate grammar.elements tokens candidate) tokens

end Utterance

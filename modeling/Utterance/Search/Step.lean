import Utterance.Grammar
import Utterance.Search.Candidate
import Utterance.Token

/-!
# One step of the search

`Search.step` gives the candidates of an element from a position, in order of preference, with at
most one candidate for each stop. It asks for the candidates of the element's children through
`solve`, in any monad, so that the plain search and the search that remembers its answers are the
same step under two interpretations.

Terminals skip noise up to the budget, the nearest match first. Sequences extend chains child by
child. Choices follow their alternatives, or put later stops first if so configured. Optional
elements try the child before the empty match. Repetitions put the highest number of occurrences
first.
-/
namespace Utterance

/-- What a search works on. -/
structure Search where
  /-- The elements of the grammar. -/
  elements : List Element
  /-- Noise allowed before a terminal. -/
  budget : SkipBudget
  /-- Order of the matches of a choice. -/
  order : ChoiceOrder
  /-- The texts of the tokens. -/
  texts : List String
  /-- The texts of the tokens as literals are compared with them. -/
  folded : List String
deriving Inhabited

namespace Search

/-- The search of tokens by a grammar. -/
def of (grammar : Grammar) (options : MatchOptions) (tokens : List Token) : Search where
  elements := grammar.elements
  budget := options.skipBudget
  order := options.choiceOrder
  texts := tokens.map (·.text)
  folded := tokens.map fun token => grammar.case.fold token.text

/-- The number of tokens. -/
def length (search : Search) : Nat := search.texts.length

/-- A search of a grammar has its elements. -/
@[simp] theorem of_elements (grammar : Grammar) (options : MatchOptions) (tokens : List Token) :
    (of grammar options tokens).elements = grammar.elements := rfl

/-- A search has the budget of its options. -/
@[simp] theorem of_budget (grammar : Grammar) (options : MatchOptions) (tokens : List Token) :
    (of grammar options tokens).budget = options.skipBudget := rfl

/-- A search of tokens is as long as they are. -/
@[simp] theorem of_length (grammar : Grammar) (options : MatchOptions) (tokens : List Token) :
    (of grammar options tokens).length = tokens.length := by
  simp [length, of]

/-- Where matches of a terminal that start exactly at a token stop, the longest first. -/
def terminalEnds (search : Search) (kind : Kind) (start : Nat) : List Nat :=
  match kind with
  | .literals set => set.matchEnds search.folded start
  | .pattern matcher => if search.texts[start]?.any matcher.accepts then [start + 1] else []
  | _ => []

/-- The tokens at which a terminal that is searched for from a position may start. -/
def starts (search : Search) (position : Nat) : List Nat :=
  List.range' position (search.budget.searchLimit position search.length - position)

/-- The matches of a terminal. -/
def terminals (search : Search) (element : Nat) (kind : Kind) (position : Nat) : List Candidate :=
  offerAll Candidate.extent []
    ((search.starts position).flatMap fun start =>
      (search.terminalEnds kind start).map (Candidate.terminal element start))

variable {m : Type → Type} [Monad m]

/-- Extend each chain by each match of an element that is searched for from where the chain stops;
matches that `keep` refuses are passed over. -/
def extendChains (solve : Nat → Nat → m (List Candidate)) (child : Nat)
    (keep : Chain → Candidate → Bool) (chains : List Chain) : m (List Chain) :=
  chains.foldlM (fun found chain => do
    let candidates ← solve child chain.stop
    pure (offerAll Chain.extent found ((candidates.filter (keep chain)).map chain.extend))) []

/-- The matches of a sequence. -/
def sequenceStep (solve : Nat → Nat → m (List Candidate)) (element : Nat) (children : List Nat)
    (position : Nat) : m (List Candidate) := do
  let chains ← children.foldlM
    (fun chains child => extendChains solve child (fun _ _ => true) chains) [.empty position]
  pure (chains.map (Chain.toCandidate element position))

/-- The matches of a choice. -/
def choiceStep (order : ChoiceOrder) (solve : Nat → Nat → m (List Candidate)) (element : Nat)
    (children : List Nat) (position : Nat) : m (List Candidate) := do
  let found ← children.foldlM (fun found child => do
    let candidates ← solve child position
    pure (offerAll Candidate.extent found
      (candidates.map fun candidate => .node element position [candidate]))) []
  pure (match order with
    | .declared => found
    | .longest => found.mergeSort fun left right => right.stop ≤ left.stop)

/-- The matches of an optional element. -/
def optionalStep (solve : Nat → Nat → m (List Candidate)) (element inner position : Nat) :
    m (List Candidate) := do
  let candidates ← solve inner position
  let found := candidates.map fun candidate => Candidate.node element position [candidate]
  pure (if found.any (·.stop == position) then found
    else found ++ [.node element position []])

/-- Chains by their number of occurrences, the highest first, from the chains found so far. An
occurrence that takes no tokens is passed over once `least` occurrences are there. -/
def levels (solve : Nat → Nat → m (List Candidate)) (inner least : Nat) (most : Option Nat) :
    (fuel : Nat) → List (List Chain) → m (List (List Chain))
  | 0, found => pure found
  | fuel + 1, found =>
    if most.any (· < found.length) then pure found
    else do
      let keep := fun (chain : Chain) (candidate : Candidate) =>
        !(candidate.stop == chain.stop && least < found.length)
      let next ← extendChains solve inner keep (found.headD [])
      if next.isEmpty then pure found else levels solve inner least most fuel (next :: found)

/-- The matches of a repetition. An element with an empty match makes up for any number of missing
occurrences, so its least number is zero. Each further occurrence takes a token, which bounds their
number by the tokens left. -/
def repetitionStep (search : Search) (solve : Nat → Nat → m (List Candidate))
    (element inner min : Nat) (max : Option Nat) (position : Nat) : m (List Candidate) := do
  let least := if elementNullable search.elements inner then 0 else min
  let found ← levels solve inner least max (search.length - position + 1) [[.empty position]]
  let chains := offerAll Chain.extent [] (found.take (found.length - least)).flatten
  pure (chains.map (Chain.toCandidate element position))

/-- The candidates of an element from a position, given the candidates of its children. -/
def step (search : Search) (solve : Nat → Nat → m (List Candidate)) (element position : Nat) :
    m (List Candidate) :=
  match search.elements[element]?.map Element.kind with
  | none => pure []
  | some (.sequence children) => sequenceStep solve element children position
  | some (.choice children) => choiceStep search.order solve element children position
  | some (.optional inner) => optionalStep solve element inner position
  | some (.repetition inner min max) =>
    repetitionStep search solve element inner min max position
  | some terminal => pure (search.terminals element terminal position)

/-- The matches of the start symbol. Without a limit on noise the search from the first token
reaches every start; with one, each start is tried, and noise before the match is free. -/
def rootStep (search : Search) (solve : Nat → Nat → m (List Candidate)) (mode : ParseMode)
    (root : Nat) : m (List Candidate) := do
  let first ← solve root 0
  let found ← match search.budget with
    | .unlimited => pure first
    | .limited _ =>
      (List.range' 1 (search.length - 1)).foldlM (fun found position => do
        let candidates ← solve root position
        pure (offerAll Candidate.extent found (candidates.filter fun candidate =>
          !candidate.isEmpty))) first
  pure (match mode with
    | .first => found
    | .widest => found.mergeSort fun left right => !right.extent.outranks left.extent)

end Search

end Utterance

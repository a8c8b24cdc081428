import Utterance.Search.Step

/-!
# The search with memory

Each pair of element and position is solved once and remembered. A limit on the number of remembered
pairs cuts the search short: when the memory is full, a pair that is not in it has no candidates.
The limit is tested when a pair is taken up, and the pair is remembered when it is solved.
-/
namespace Utterance

/-- Solved pairs of element and position with their candidates, and whether the search was cut. -/
structure Memo where
  /-- Solved pairs, the latest first. -/
  entries : List ((Nat × Nat) × List Candidate) := []
  /-- Whether a pair was left unsolved because the memory was full. -/
  exhausted : Bool := false
deriving Inhabited

namespace Memo

/-- The number of solved pairs. -/
def size (memo : Memo) : Nat := memo.entries.length

/-- The candidates of a pair that is solved. -/
def find? (memo : Memo) (element position : Nat) : Option (List Candidate) :=
  memo.entries.lookup (element, position)

/-- Remember a solved pair. -/
def insert (memo : Memo) (element position : Nat) (found : List Candidate) : Memo :=
  { memo with entries := ((element, position), found) :: memo.entries }

/-- Whether a limit leaves no room. -/
def isFull (memo : Memo) (limit : Option Nat) : Bool := limit.any (· ≤ memo.size)

end Memo

namespace Search

/-- The candidates of an element from a position, following children to a depth. -/
def solve (search : Search) (limit : Option Nat) :
    (depth : Nat) → (element position : Nat) → StateM Memo (List Candidate)
  | 0, _, _ => pure []
  | depth + 1, element, position => do
    let memo ← get
    match memo.find? element position with
    | some found => pure found
    | none =>
      if memo.isFull limit then
        set { memo with exhausted := true }
        pure []
      else
        let found ← search.step (solve search limit depth) element position
        modify (·.insert element position found)
        pure found

/-- The candidates of an element of a grammar from a position. -/
def candidates (search : Search) (limit : Option Nat) (element position : Nat) :
    StateM Memo (List Candidate) :=
  search.solve limit search.elements.length element position

end Search

/-- The matches of a grammar's start symbol in tokens, the preferred one first. -/
def Grammar.roots (grammar : Grammar) (options : MatchOptions) (tokens : List Token) :
    List Candidate :=
  let search := Search.of grammar options tokens
  ((search.rootStep (search.candidates options.maxMemoEntries) options.mode grammar.root).run {}).1

end Utterance

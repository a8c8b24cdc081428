import Utterance.Search.Step

/-!
# The plain search

The search without memory: the step of an element asks for its children again each time. Children
stand before their parents, so a depth of one more than the element's place suffices.
-/
namespace Utterance.Search

/-- The candidates of an element from a position, following children to a depth. -/
def plain (search : Search) : (depth : Nat) → (element position : Nat) → List Candidate
  | 0, _, _ => []
  | depth + 1, element, position =>
    Id.run (search.step (fun child next => pure (plain search depth child next)) element position)

end Utterance.Search

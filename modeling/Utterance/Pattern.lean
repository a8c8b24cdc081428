import Utterance.Options
import Utterance.Pattern.Meaning
import Utterance.Pattern.Reader

/-!
# Patterns

A pattern accepts a token when it matches the whole of its text. `Pattern.compile` reads the source
under a case policy; it refuses a source that has a fault of its own, and one that cannot be
anchored at both ends or that asks what a word of all scripts is.
-/
namespace Utterance

/-- A pattern that is ready to match. -/
structure Pattern where
  /-- The text of the pattern. -/
  source : String
  /-- What it matches, from start to end of a text. -/
  regex : Pattern.Regex
deriving Repr, Inhabited

namespace Pattern

/-- What a source means on its own under a case policy. -/
def meaning (case : CasePolicy) (source : String) : Except Problem Meaning := do
  let node ← Ast.read source
  node.meaning { caseInsensitive := case == .insensitive }

/-- The source between anchors for the start and the end of a text. -/
def anchored (source : String) : String := "^(?:" ++ source ++ ")$"

/-- Prepare a pattern. -/
def compile (case : CasePolicy) (source : String) : Except Problem Pattern := do
  let _ ← meaning case source
  match meaning case (anchored source) with
  | .error _ => .error ⟨.wholeTextUnbuildable, none⟩
  | .ok whole =>
    if whole.asksWords then .error ⟨.unicodeWordBoundary, none⟩
    else .ok ⟨source, whole.regex⟩

/-- Whether the pattern matches the whole of a text. -/
def accepts (pattern : Pattern) (text : String) : Bool := pattern.regex.acceptsAll text

end Pattern

end Utterance

import Utterance.Diagnostic
import Utterance.Expr
import Utterance.Grammar

/-!
# Declarations of grammars

A declaration gives names to expressions, says which name is the start symbol, and registers
actions. Before anything is built three things are checked, in this order: names are given once and
the start symbol is among them; every name that an expression uses is given; and no definition uses
itself, directly or through others. The last check walks the references depth first and reports the
first circle it closes.
-/
namespace Utterance

/-- A name and the expression it stands for. -/
structure Definition where
  /-- The name. -/
  name : String
  /-- The expression. -/
  expr : Expr
deriving Repr, Inhabited

/-- The text of a definition that diagnostics point into. -/
def Definition.source (definition : Definition) : Source :=
  ⟨definition.name, definition.name ++ " = " ++ definition.expr.render⟩

/-- A grammar as its author states it. -/
structure Declaration where
  /-- Definitions in order. -/
  definitions : List Definition
  /-- The name of the start symbol. -/
  goal : String := "GOAL"
  /-- How terminals compare text. -/
  case : CasePolicy := .insensitive
  /-- Actions by the name of their element, in order. -/
  actions : List (String × Action) := []

namespace Declaration

/-- The definition of a name. -/
def find? (definitions : List Definition) (name : String) : Option Definition :=
  definitions.find? (·.name == name)

/-- The names that the definition of a name uses. -/
def referencesOf (definitions : List Definition) (name : String) : List String :=
  ((find? definitions name).map (·.expr.references)).getD []

/-- The first definition whose name an earlier one has, given the names before. -/
def firstRepeated? (earlier : List String) : List Definition → Option Definition
  | [] => none
  | definition :: rest =>
    if earlier.contains definition.name then some definition
    else firstRepeated? (definition.name :: earlier) rest

/-- Check that names are given once and that the start symbol is among them. -/
def checkNames (definitions : List Definition) (goal : String) : Except Diagnostic Unit :=
  match firstRepeated? [] definitions with
  | some definition =>
    .error (.ofGrammar (.duplicateBinding definition.name) definition.source
      definition.source.fullSpan)
  | none =>
    let names := definitions.map (·.name)
    if names.contains goal then .ok ()
    else
      .error ((Diagnostic.ofGrammar (.missingGoal goal) ⟨"bindings", ", ".intercalate names⟩
        .nowhere).withHelp ("bind the start symbol with define(\"" ++ goal ++ "\", ...)"))

/-- The first use of a name that is not given: the definition and the name. -/
def firstUndefined? (definitions : List Definition) : Option (Definition × String) :=
  let names := definitions.map (·.name)
  definitions.findSome? fun definition =>
    (definition.expr.references.find? fun name => !names.contains name).map (definition, ·)

/-- Check that every name used is given. -/
def checkReferences (definitions : List Definition) : Except Diagnostic Unit :=
  match firstUndefined? definitions with
  | none => .ok ()
  | some (definition, reference) =>
    .error ((Diagnostic.ofGrammar (.undefinedReference definition.name reference) definition.source
      (definition.source.find reference)).withHelp (Diagnostic.undefinedReferenceHelp reference))

/-- Walk the references from a name, depth first. `path` holds the names on the way to it, outermost
first, and `finished` the names whose references are all walked. A name met again on its own path
closes a circle, which is the error. `fuel` bounds the depth; a path of distinct names is never
longer than the list of definitions. -/
def visit (definitions : List Definition) : (fuel : Nat) → (path : List String) →
    (finished : List String) → (name : String) → Except (List String) (List String)
  | 0, _, finished, _ => .ok finished
  | fuel + 1, path, finished, name =>
    if finished.contains name then .ok finished
    else if path.contains name then .error (path.dropWhile (· != name) ++ [name])
    else do
      let walked ← (referencesOf definitions name).foldlM
        (visit definitions fuel (path ++ [name])) finished
      .ok (name :: walked)

/-- The first circle of references, from a name back to itself. -/
def findCycle? (definitions : List Definition) : Option (List String) :=
  match (definitions.map (·.name)).foldlM (visit definitions (definitions.length + 1) []) [] with
  | .ok _ => none
  | .error cycle => some cycle

/-- Check that no definition uses itself. -/
def checkCycles (definitions : List Definition) : Except Diagnostic Unit :=
  match findCycle? definitions with
  | none => .ok ()
  | some cycle =>
    let source := ((find? definitions (cycle.headD "")).map (·.source)).getD default
    .error ((Diagnostic.ofGrammar (.cyclicGrammar cycle) source source.fullSpan).withHelp
      "grammars must be acyclic; use repeat() for recursion over a list")

end Declaration

end Utterance

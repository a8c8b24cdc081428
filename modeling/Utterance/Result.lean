import Utterance.Tree
import Utterance.Diagnostic

/-!
# From trees to results

The value of a terminal is its text. A sequence or repetition becomes a map: its items are the
values of its children, where the items of a child without a given name are spliced in, and its
named view binds each child's name and every name bound further down that no child of its own has. A
choice or optional has the value of the child that matched. An action replaces the value of its
element; if it fails, the value stays and the failure is recorded. Spans without tokens contribute
nothing.

Names bound more than once in one scope hold the list of their values, in match order.
-/
namespace Utterance

/-- Values bound to names, in order of the names, each name's values in match order. -/
abbrev Scope := List (String × List Value)

namespace Scope

/-- Add values to those bound to a name. -/
def add (name : String) (values : List Value) : Scope → Scope
  | [] => [(name, values)]
  | (held, bound) :: rest =>
    if name = held then (held, bound ++ values) :: rest
    else if name < held then (name, values) :: (held, bound) :: rest
    else (held, bound) :: add name values rest

/-- Add the bindings of an inner scope, except the names that are shadowed. -/
def float (shadowed : List String) (inner outer : Scope) : Scope :=
  inner.foldl (fun scope (entry : String × List Value) =>
    if shadowed.contains entry.1 then scope else scope.add entry.1 entry.2) outer

/-- A single value stands for itself, and several for their list. -/
def single : List Value → Value
  | [value] => value
  | values => .list values

/-- The named view of a scope. -/
def toNamed (scope : Scope) : List (String × Value) :=
  scope.map fun (name, values) => (name, single values)

end Scope

/-- What a span contributes to the span around it. -/
structure Built where
  /-- The value of the span. -/
  value : Value
  /-- The names bound below the span. -/
  scope : Scope
  /-- Whether the value is one item in the span around it, and not spliced in. -/
  grouped : Bool
  /-- Failures of actions at the span and below it, in the order in which they ran. -/
  failures : List Failure
deriving Inhabited

namespace Built

/-- Items that a value contributes to the list view around it. -/
def items (built : Built) : List Value :=
  match built.value, built.grouped with
  | .map items _, false => items
  | .nil, _ => []
  | value, _ => [value]

/-- Run the action of an element. -/
def applyAction (action : Option Action) (name : String) (built : Built) : Built :=
  match action with
  | none => built
  | some action =>
    match action built.value with
    | .ok value => { built with value }
    | .error message =>
      { built with failures := built.failures ++ [⟨name, message, built.value⟩] }

/-- A choice or optional element around the child that matched. -/
def wrap (explicit : Bool) (name : String) (inner : Built) : Built where
  value := inner.value
  scope := Scope.float [name] inner.scope (Scope.add name [inner.value] [])
  grouped := explicit || inner.grouped
  failures := inner.failures

/-- A sequence or repetition of named children. -/
def combine (explicit : Bool) (children : List (String × Built)) : Built :=
  let names := children.map (·.1)
  let direct := children.foldl
    (fun (scope : Scope) (child : String × Built) => scope.add child.1 [child.2.value]) []
  let scope := children.foldl
    (fun (scope : Scope) (child : String × Built) => Scope.float names child.2.scope scope) direct
  { value := .map (children.flatMap (·.2.items)) scope.toNamed
    scope
    grouped := explicit
    failures := children.flatMap (·.2.failures) }

/-- What a span without a value contributes. -/
def absent : Built := ⟨.nil, [], false, []⟩

mutual

/-- What a span contributes. -/
def ofSpan (grammar : Grammar) : MatchSpan → Built
  | ⟨element, name, _, _, text, _, children⟩ =>
    let inner := ofSpans grammar children
    let explicit := grammar.elements[element]?.any (·.explicit)
    applyAction (grammar.action? element) name
      (match grammar.elements[element]?.map Element.kind with
      | some (.choice _) | some (.optional _) =>
        match inner with
        | [] => absent
        | (child, built) :: _ => wrap explicit child built
      | some (.sequence _) | some (.repetition _ _ _) => combine explicit inner
      | _ => ⟨.text (text.getD ""), [], false, []⟩)

/-- What the spans that cover tokens contribute, with their names. -/
def ofSpans (grammar : Grammar) : List MatchSpan → List (String × Built)
  | [] => []
  | child :: rest =>
    if child.isEmpty then ofSpans grammar rest
    else (child.name, ofSpan grammar child) :: ofSpans grammar rest

end

end Built

/-- The result of a parse tree: the names bound below the root, with the root under its own name. -/
def ParseTree.result (grammar : Grammar) (tree : ParseTree) : ParseResult :=
  if tree.root.isEmpty then {}
  else
    let built := Built.ofSpan grammar tree.root
    let name := tree.root.name
    { items := match built.value with
        | .map items _ => items
        | .nil => []
        | value => [value]
      named := (Scope.float [name] built.scope (Scope.add name [built.value] [])).toNamed
      failures := built.failures }

/-- The diagnostic of an action that failed. -/
def Failure.diagnostic (failure : Failure) : Diagnostic :=
  let source : Source := ⟨failure.key, failure.raw.words⟩
  { fault := .postProcessing failure.key failure.message, source, span := source.fullSpan
    phase := "post_processing" }

end Utterance

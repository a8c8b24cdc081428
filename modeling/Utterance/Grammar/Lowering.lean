import Utterance.Grammar.Declaration

/-!
# From expressions to elements

The expressions of a declaration become elements, children before parents. An element without a name
of its own takes a derived one, and a derived name that exists already stands for the element that
has it; a given name must be new. A definition that only renames another element becomes a choice
with one alternative. `Declaration.build` runs the checks of the declaration, makes the elements of
every definition in order and attaches the actions.
-/
namespace Utterance

/-- Elements made so far, and the element of each definition that is done. -/
structure Lowering where
  /-- Elements in the order in which they were made. -/
  elements : List Element := []
  /-- The element of each finished definition. -/
  bound : List (String × Nat) := []
deriving Inhabited

namespace Lowering

/-- A step that makes elements and gives one of them, or fails. -/
abbrev Step := Lowering → Except Diagnostic (Nat × Lowering)

/-- A step that makes elements and gives some of them in order, or fails. -/
abbrev Steps := Lowering → Except Diagnostic (List Nat × Lowering)

/-- The source that faults in the definition of a name point into. -/
def ruleSource (definitions : List Definition) (rule : String) : Source :=
  ((Declaration.find? definitions rule).map (·.source)).getD ⟨rule, rule⟩

/-- A fault that concerns the whole definition of a name. -/
def ruleFault (definitions : List Definition) (rule : String) (fault : Fault) : Diagnostic :=
  let source := ruleSource definitions rule
  .ofGrammar fault source source.fullSpan

/-- Add an element under a given or a derived name. The element that has the derived name already is
taken instead; a name that is given, or that belongs to an element with a given name, must be new.
-/
def intern (definitions : List Definition) (rule : String) (given : Option String) (kind : Kind) :
    Step := fun state =>
  let name := given.getD (kind.derivedName (elementName state.elements))
  match elementIndex? state.elements name with
  | some existing =>
    if given.isNone && !(state.elements[existing]?.any (·.explicit)) then .ok (existing, state)
    else
      let source := ruleSource definitions rule
      .error ((Diagnostic.ofGrammar (.duplicateBinding name) source (source.find name)).withHelp
        "reuse a shared element with rule(..) instead of naming it twice")
  | none =>
    let element : Element :=
      { name, explicit := given.isSome, kind
        nullable := kind.nullable (elementNullable state.elements) }
    .ok (state.elements.length, { state with elements := state.elements ++ [element] })

/-- Why the bounds of a repetition admit nothing. -/
def boundsFault? (min : Nat) : Option Nat → Option String
  | none => none
  | some max =>
    if max = 0 then some "maximum count must be at least 1"
    else if max < min then
      some ("minimum " ++ toString min ++ " exceeds maximum " ++ toString max)
    else none

/-- The fault of a pattern in the definition of a name. -/
def patternFault (rule source : String) (problem : Pattern.Problem) : Diagnostic :=
  let text : Source := ⟨rule ++ " pattern", source⟩
  .ofGrammar (.invalidPattern source problem.fault.message) text
    (problem.part.elim text.fullSpan fun part => .between part.start part.stop)

/-- Make an element, and another one around it. -/
def around (definitions : List Definition) (rule : String) (given : Option String)
    (kind : Nat → Kind) (inner : Step) : Step := fun state => do
  let (id, state) ← inner state
  intern definitions rule given (kind id) state

/-- Make the elements of children, of which there must be some, and one around them. -/
def aroundAll (definitions : List Definition) (rule : String) (given : Option String)
    (kind : List Nat → Kind) (children : List Expr) (inner : Steps) : Step := fun state =>
  if children.isEmpty then .error (ruleFault definitions rule (.emptyCombinator rule))
  else do
    let (ids, state) ← inner state
    intern definitions rule given (kind ids) state

mutual

/-- Make the element of an expression in the definition of `rule`, under a given name if there is
one; `resolve` gives the element of another definition. -/
def lower (definitions : List Definition) (case : CasePolicy) (resolve : String → Step)
    (rule : String) : Expr → (given : Option String) → Step
  | .named name inner, none => lower definitions case resolve rule inner (some name)
  | .named name inner, some outer =>
    around definitions rule (some outer) (fun id => .choice [id])
      (lower definitions case resolve rule inner (some name))
  | .rule target, none => resolve target
  | .rule target, some outer =>
    around definitions rule (some outer) (fun id => .choice [id]) (resolve target)
  | .literals members, given => fun state =>
    let set := LiteralSet.ofMembers case members
    if set.isEmpty then .error (ruleFault definitions rule (.emptyLiteralSet rule))
    else intern definitions rule given (.literals set) state
  | .pattern source, given => fun state =>
    match Pattern.compile case source with
    | .error problem => .error (patternFault rule source problem)
    | .ok pattern => intern definitions rule given (.pattern pattern) state
  | .sequence children, given =>
    aroundAll definitions rule given .sequence children
      (lowerAll definitions case resolve rule children)
  | .choice children, given =>
    aroundAll definitions rule given .choice children
      (lowerAll definitions case resolve rule children)
  | .optional inner, given =>
    around definitions rule given .optional (lower definitions case resolve rule inner none)
  | .repetition inner min max, given => fun state =>
    match boundsFault? min max with
    | some reason => .error (ruleFault definitions rule (.invalidRepeat rule reason))
    | none =>
      around definitions rule given (fun id => .repetition id min max)
        (lower definitions case resolve rule inner none) state

/-- Make the elements of expressions from left to right. -/
def lowerAll (definitions : List Definition) (case : CasePolicy) (resolve : String → Step)
    (rule : String) : List Expr → Steps
  | [], state => .ok ([], state)
  | child :: rest, state => do
    let (id, state) ← lower definitions case resolve rule child none state
    let (ids, state) ← lowerAll definitions case resolve rule rest state
    .ok (id :: ids, state)

end

/-- The element of a definition, made now unless it exists. `depth` bounds how far definitions are
followed; without a circle it is never used up. -/
def lowerDefinition (definitions : List Definition) (case : CasePolicy) :
    (depth : Nat) → (name : String) → Step
  | 0, name, _ => .error (ruleFault definitions name (.cyclicGrammar [name]))
  | depth + 1, name, state =>
    match state.bound.lookup name with
    | some id => .ok (id, state)
    | none =>
      match Declaration.find? definitions name with
      | none => .error (ruleFault definitions name (.undefinedReference name name))
      | some definition => do
        let (id, state) ← lower definitions case (lowerDefinition definitions case depth) name
          definition.expr (some name) state
        .ok (id, { state with bound := (name, id) :: state.bound })

/-- Make the elements of definitions in order. -/
def lowerDefinitions (definitions : List Definition) (case : CasePolicy) :
    List Definition → Lowering → Except Diagnostic Lowering
  | [], state => .ok state
  | definition :: rest, state => do
    let (_, state) ← lowerDefinition definitions case (definitions.length + 1) definition.name state
    lowerDefinitions definitions case rest state

end Lowering

namespace Declaration

/-- Attach actions to their elements; a later action for an element replaces an earlier one. -/
def attach (elements : List Element) : List (String × Action) → List (Nat × Action) →
    Except Diagnostic (List (Nat × Action))
  | [], attached => .ok attached
  | (name, action) :: rest, attached =>
    match elementIndex? elements name with
    | none => .error (.ofGrammar (.unknownActionTarget name) ⟨name, name⟩ .nowhere)
    | some id => attach elements rest ((id, action) :: attached.filter (·.1 != id))

/-- Build the grammar of a declaration. -/
def build (declaration : Declaration) : Except Diagnostic Grammar := do
  let definitions := declaration.definitions
  checkNames definitions declaration.goal
  checkReferences definitions
  checkCycles definitions
  let state ← Lowering.lowerDefinitions definitions declaration.case definitions {}
  let actions ← attach state.elements declaration.actions []
  .ok
    { elements := state.elements
      root := (state.bound.lookup declaration.goal).getD 0
      actions
      case := declaration.case }

end Declaration

end Utterance

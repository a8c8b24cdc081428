import Utterance.Result

/-!
# Calls of actions

A result is built from the leaves of a tree upwards: the values of the children of a span come
first, then the value of the span, and then the action of its element is called with that value.
`Built.visit` leaves the calls to a handler, which may have effects of its own, such as a log, and
answers with another value or a message of failure.

`MatchSpan.calls` lists the calls to be made for a span: one for each span inside it that covers
tokens and whose element has an action, and inner spans before those around them.
-/
namespace Utterance

namespace MatchSpan

mutual

/-- A span after all spans inside it, which stand in the same order. -/
def postorder : MatchSpan → List MatchSpan
  | ⟨element, name, start, stop, text, skipped, children⟩ =>
    postorderAll children ++ [⟨element, name, start, stop, text, skipped, children⟩]

/-- Several spans, each after all spans inside it. -/
def postorderAll : List MatchSpan → List MatchSpan
  | [] => []
  | child :: rest => postorder child ++ postorderAll rest

end

end MatchSpan

/-- One call of an action. -/
structure Call where
  /-- The span whose value is reworked. -/
  span : MatchSpan
  /-- The action of its element. -/
  action : Action
  /-- The value that the action is given. -/
  given : Value

namespace Call

/-- What the action says to the value. -/
def answer (call : Call) : Except String Value := call.action call.given

/-- The failure to be recorded, if there is one. -/
def failure? (call : Call) : Option Failure :=
  match call.answer with
  | .ok _ => none
  | .error message => some ⟨call.span.name, message, call.given⟩

/-- Answer a call after an effect that comes with it. -/
def performing {m : Type → Type} [Monad m] (effect : Call → m Unit) (call : Call) :
    m (Except String Value) := do
  effect call
  pure call.answer

/-- Answer a call and note it at the end of a log. -/
def logged : Call → StateM (List Call) (Except String Value) :=
  performing fun call => modify (· ++ [call])

end Call

namespace Built

/-- What a span contributes before its action is called, given what its children contribute. -/
def assemble (grammar : Grammar) (span : MatchSpan) (inner : List (String × Built)) : Built :=
  let explicit := grammar.elements[span.element]?.any (·.explicit)
  match grammar.elements[span.element]?.map Element.kind with
  | some (.choice _) | some (.optional _) =>
    match inner with
    | [] => absent
    | (child, built) :: _ => wrap explicit child built
  | some (.sequence _) | some (.repetition _ _ _) => combine explicit inner
  | _ => ⟨.text (span.text.getD ""), [], false, []⟩

/-- What a span contributes before its action is called. -/
def beforeAction (grammar : Grammar) (span : MatchSpan) : Built :=
  assemble grammar span (ofSpans grammar span.children)

/-- What is left of a span's contribution after the answer to a call: the new value, or the old one
and a failure. -/
def answered (name : String) (built : Built) : Except String Value → Built
  | .ok value => { built with value }
  | .error message => { built with failures := built.failures ++ [⟨name, message, built.value⟩] }

/-- A span contributes what it does before its action, and the action on top. -/
theorem ofSpan_eq (grammar : Grammar) (span : MatchSpan) :
    ofSpan grammar span =
      applyAction (grammar.action? span.element) span.name (beforeAction grammar span) := by
  cases span
  rw [ofSpan]
  rfl

/-- The result of a root with a name. -/
def toResult (name : String) (built : Built) : ParseResult where
  items := match built.value with
    | .map items _ => items
    | .nil => []
    | value => [value]
  named := (Scope.float [name] built.scope (Scope.add name [built.value] [])).toNamed
  failures := built.failures

section

variable {m : Type → Type} [Monad m]

/-- Have the action of a span called, if its element has one. -/
def callAction (grammar : Grammar) (handle : Call → m (Except String Value)) (span : MatchSpan)
    (built : Built) : m Built :=
  match grammar.action? span.element with
  | none => pure built
  | some action => do
    let answer ← handle ⟨span, action, built.value⟩
    pure (built.answered span.name answer)

mutual

/-- What a span contributes, with the actions inside it and its own called through a handler. -/
def visit (grammar : Grammar) (handle : Call → m (Except String Value)) : MatchSpan → m Built
  | ⟨element, name, start, stop, text, skipped, children⟩ => do
    let inner ← match grammar.elements[element]?.map Element.kind with
      | some (.choice _) | some (.optional _) => visitFirst grammar handle children
      | some (.sequence _) | some (.repetition _ _ _) => visitAll grammar handle children
      | _ => pure []
    let span := ⟨element, name, start, stop, text, skipped, children⟩
    callAction grammar handle span (assemble grammar span inner)

/-- What the first span that covers tokens contributes, with its name. -/
def visitFirst (grammar : Grammar) (handle : Call → m (Except String Value)) :
    List MatchSpan → m (List (String × Built))
  | [] => pure []
  | child :: rest =>
    if child.isEmpty then visitFirst grammar handle rest
    else do
      let built ← visit grammar handle child
      pure [(child.name, built)]

/-- What the spans that cover tokens contribute, with their names. -/
def visitAll (grammar : Grammar) (handle : Call → m (Except String Value)) :
    List MatchSpan → m (List (String × Built))
  | [] => pure []
  | child :: rest =>
    if child.isEmpty then visitAll grammar handle rest
    else do
      let built ← visit grammar handle child
      let others ← visitAll grammar handle rest
      pure ((child.name, built) :: others)

end

end

end Built

/-- The result of a parse tree, with actions called through a handler. -/
def ParseTree.resultThrough {m : Type → Type} [Monad m] (grammar : Grammar)
    (handle : Call → m (Except String Value)) (tree : ParseTree) : m ParseResult :=
  if tree.root.isEmpty then pure {}
  else do
    let built ← Built.visit grammar handle tree.root
    pure (built.toResult tree.root.name)

/-- The result of a tree is that of its root, unless the root is empty. -/
theorem ParseTree.result_eq (grammar : Grammar) (tree : ParseTree) :
    tree.result grammar =
      if tree.root.isEmpty then {} else (Built.ofSpan grammar tree.root).toResult tree.root.name :=
  rfl

namespace MatchSpan

/-- The call to be made for a span itself, if it covers tokens and its element has an action. -/
def call? (grammar : Grammar) (span : MatchSpan) : Option Call :=
  if span.isEmpty then none
  else
    (grammar.action? span.element).map fun action =>
      ⟨span, action, (Built.beforeAction grammar span).value⟩

/-- The calls to be made for a span and for the spans inside it. -/
def calls (grammar : Grammar) (span : MatchSpan) : List Call :=
  span.postorder.filterMap (call? grammar)

end MatchSpan

end Utterance

import Utterance.Proofs.Admission
import Utterance.Proofs.Spans

/-!
# Actions that fail

The action of an element is called once for each span of the element that covers tokens, and after
the actions inside the span: whatever effects come with the calls, a result has those of
`MatchSpan.calls` in their order, and no others (`Derivation.visited`). A call that fails leaves the
value that it was given in the result and one failure in the list of failures
(`Derivation.failures_eq`). Otherwise the result is the one that it would be if the action had
answered with that value (`Built.ofSpan_settled`, `Grammar.failures_disturb_nothing`).
-/
namespace Utterance

namespace Call

/-- A log gets the calls in their order. -/
theorem run_forM_log (calls log : List Call) :
    (calls.forM (m := StateM (List Call)) fun call => modify (· ++ [call])).run log =
      ((), log ++ calls) := by
  induction calls generalizing log with
  | nil => rw [List.append_nil]; rfl
  | cons call rest hypothesis =>
    rw [List.append_cons]
    exact hypothesis (log ++ [call])

end Call

namespace MatchSpan

variable {grammar : Grammar}

/-- The calls for a span are those for its children and then its own. -/
theorem calls_eq (grammar : Grammar) (span : MatchSpan) :
    span.calls grammar = span.children.flatMap (calls grammar) ++ (span.call? grammar).toList := by
  have own : [span].filterMap (call? grammar) = (span.call? grammar).toList := by
    rw [List.filterMap_cons]
    cases span.call? grammar <;> rfl
  rw [calls, postorder_eq, List.filterMap_append, List.filterMap_flatMap, own]
  rfl

/-- No call is made where all spans are empty. -/
theorem calls_eq_nil {span : MatchSpan} (hollow : ∀ inner ∈ span.postorder, inner.isEmpty = true) :
    span.calls grammar = [] := by
  refine List.filterMap_eq_nil_iff.2 fun inner member => ?_
  rw [call?, hollow inner member, if_pos rfl]

/-- A call has the action of its element and the value that its span has without it. -/
theorem action?_of_mem_calls {span : MatchSpan} {call : Call} (member : call ∈ span.calls grammar) :
    grammar.action? call.span.element = some call.action ∧
      call.given = (Built.beforeAction grammar call.span).value := by
  obtain ⟨inner, -, made⟩ := List.mem_filterMap.1 member
  rw [call?] at made
  split at made
  · cases made
  · obtain ⟨action, attached, rfl⟩ := Option.map_eq_some_iff.1 made
    exact ⟨attached, rfl⟩

/-- The calls are for the spans that cover tokens and whose elements have actions, in order. -/
theorem map_span_calls (grammar : Grammar) (span : MatchSpan) :
    (span.calls grammar).map Call.span = span.postorder.filter fun inner =>
      !inner.isEmpty && (grammar.action? inner.element).isSome := by
  rw [calls, List.map_filterMap, ← List.filterMap_eq_filter]
  refine List.filterMap_congr fun inner _ => ?_
  cases empty : inner.isEmpty <;> cases action : grammar.action? inner.element <;>
    simp [call?, empty, action, Option.guard]

end MatchSpan

namespace Built

variable {grammar : Grammar} {span : MatchSpan} {kind : Kind}

section

variable {m : Type → Type} [Monad m] {handle : Call → m (Except String Value)}

/-- A terminal has its action called. -/
theorem visit_of_isTerminal (present : kindOf? grammar.elements span.element = some kind)
    (direct : kind.isTerminal = true) :
    visit grammar handle span = (pure [] : m (List (String × Built))) >>= fun inner =>
      callAction grammar handle span (assemble grammar span inner) := by
  cases span
  rw [visit, show grammar.elements[_]?.map Element.kind = some kind from present]
  cases kind with
  | literals _ | pattern _ => rfl
  | sequence _ | choice _ | optional _ | repetition _ _ _ => cases direct

/-- An element with a series of children has them visited, and then its action called. -/
theorem visit_of_isSeries (present : kindOf? grammar.elements span.element = some kind)
    (series : kind.isSeries = true) :
    visit grammar handle span = visitAll grammar handle span.children >>= fun inner =>
      callAction grammar handle span (assemble grammar span inner) := by
  cases span
  rw [visit, show grammar.elements[_]?.map Element.kind = some kind from present]
  cases kind with
  | sequence _ | repetition _ _ _ => rfl
  | literals _ | pattern _ | choice _ | optional _ => cases series

/-- An element that only chooses has the child that matched visited, and then its action called. -/
theorem visit_of_isTransparent (present : kindOf? grammar.elements span.element = some kind)
    (chooses : kind.isTransparent = true) :
    visit grammar handle span = visitFirst grammar handle span.children >>= fun inner =>
      callAction grammar handle span (assemble grammar span inner) := by
  cases span
  rw [visit, show grammar.elements[_]?.map Element.kind = some kind from present]
  cases kind with
  | choice _ | optional _ => rfl
  | literals _ | pattern _ | sequence _ | repetition _ _ _ => cases chooses

end

section

variable {m : Type → Type} [Monad m] [LawfulMonad m] {effect : Call → m Unit}

/-- An action leaves what is left after its answer. -/
theorem applyAction_some (action : Action) (name : String) (built : Built) :
    applyAction (some action) name built = built.answered name (action built.value) := by
  rw [applyAction]
  cases action built.value <;> rfl

/-- Whether a visit has the effects of the calls for a span, in their order, and answers with what
the span contributes. -/
def Visited (grammar : Grammar) (effect : Call → m Unit) (span : MatchSpan) : Prop :=
  visit grammar (Call.performing effect) span = do
    (span.calls grammar).forM effect
    pure (ofSpan grammar span)

/-- The action of a span is called once, with what the span contributes before. -/
theorem callAction_beforeAction (filled : span.isEmpty = false) :
    callAction grammar (Call.performing effect) span (beforeAction grammar span) =
      (do
        (span.call? grammar).toList.forM effect
        pure (ofSpan grammar span)) := by
  rw [callAction, MatchSpan.call?, filled, if_neg Bool.false_ne_true, ofSpan_eq]
  cases grammar.action? span.element with
  | none => simp [applyAction]
  | some action =>
    rw [applyAction_some]
    simp [Call.performing, Call.answer]

/-- A series of children is visited one by one. -/
theorem visitAll_eq {spans : List MatchSpan}
    (each : ∀ span ∈ spans, span.isEmpty = false → Visited grammar effect span)
    (hollow : ∀ span ∈ spans, span.isEmpty = true → span.calls grammar = []) :
    visitAll grammar (Call.performing effect) spans =
      (do
        (spans.flatMap (MatchSpan.calls grammar)).forM effect
        pure (ofSpans grammar spans)) := by
  induction spans with
  | nil => simp [visitAll, ofSpans]
  | cons span rest hypothesis =>
    have later := hypothesis (fun other member => each other (List.mem_cons_of_mem _ member))
      (fun other member => hollow other (List.mem_cons_of_mem _ member))
    rw [visitAll, ofSpans, List.flatMap_cons]
    cases empty : span.isEmpty with
    | true =>
      rw [hollow span List.mem_cons_self empty]
      exact later
    | false =>
      rw [if_neg Bool.false_ne_true, if_neg Bool.false_ne_true, later,
        each span List.mem_cons_self empty]
      simp

/-- A span has the effects of the calls for its children and then of its own, if the visit of its
children has theirs. -/
theorem visited_of_inner {inner : m (List (String × Built))} (filled : span.isEmpty = false)
    (made : inner = do
      (span.children.flatMap (MatchSpan.calls grammar)).forM effect
      pure (ofSpans grammar span.children))
    (visits : visit grammar (Call.performing effect) span = inner >>= fun inner =>
      callAction grammar (Call.performing effect) span (assemble grammar span inner)) :
    Visited grammar effect span := by
  rw [Visited, visits, made, bind_assoc]
  simp only [pure_bind]
  rw [← beforeAction, callAction_beforeAction filled, MatchSpan.calls_eq]
  simp

end

section

/-- The failures of a span before its action are those of its children, and then comes its own. -/
theorem failures_ofSpan (filled : span.isEmpty = false) :
    (ofSpan grammar span).failures =
      (beforeAction grammar span).failures ++ (span.call? grammar).toList.filterMap
        Call.failure? := by
  rw [ofSpan_eq, MatchSpan.call?, filled, if_neg Bool.false_ne_true]
  cases grammar.action? span.element with
  | none => simp [applyAction]
  | some action =>
    simp only [Option.map_some, Option.toList_some, List.filterMap_cons, List.filterMap_nil,
      applyAction, Call.failure?, Call.answer]
    cases action (beforeAction grammar span).value <;> simp

/-- The failures of several spans are those of each. -/
theorem failures_ofSpans {spans : List MatchSpan}
    (each : ∀ span ∈ spans, span.isEmpty = false →
      (ofSpan grammar span).failures = (span.calls grammar).filterMap Call.failure?)
    (hollow : ∀ span ∈ spans, span.isEmpty = true → span.calls grammar = []) :
    (ofSpans grammar spans).flatMap (·.2.failures) =
      (spans.flatMap (MatchSpan.calls grammar)).filterMap Call.failure? := by
  have filled : (spans.filter (!·.isEmpty)).flatMap (MatchSpan.calls grammar) =
      spans.flatMap (MatchSpan.calls grammar) :=
    flatMap_filter_of_nil spans fun span member empty => hollow span member (by simpa using empty)
  rw [ofSpans_eq_map, List.flatMap_map, ← filled, List.filterMap_flatMap]
  refine List.flatMap_congr fun span member => ?_
  obtain ⟨listed, covers⟩ := List.mem_filter.1 member
  exact each span listed (by simpa using covers)

end

end Built

namespace Derivation

variable {grammar : Grammar} {budget : SkipBudget} {tokens : List Token}
  {element position stop : Nat} {span : MatchSpan}

/-- No call is made for an empty derivation. -/
theorem calls_eq_nil (grounded : Grounded grammar.case grammar.elements)
    (derivation : Derivation grammar budget tokens element position span stop)
    (empty : span.isEmpty = true) : span.calls grammar = [] :=
  MatchSpan.calls_eq_nil (derivation.isEmpty_of_mem_postorder grounded empty)

/-- Whatever effects come with the calls, a derivation that is not empty has those of its calls, in
their order. -/
theorem visited {m : Type → Type} [Monad m] [LawfulMonad m] (effect : Call → m Unit)
    (grounded : Grounded grammar.case grammar.elements)
    (derivation : Derivation grammar budget tokens element position span stop) :
    span.isEmpty = false → Built.Visited grammar effect span := by
  refine Derivation.induction_on_kind (motive := fun _ _ span _ =>
    span.isEmpty = false → Built.Visited grammar effect span) grounded ?_ ?_ ?_ ?_ derivation
  · intro element position start stop kind present direct after within filled
    refine Built.visited_of_inner filled ?_ (Built.visit_of_isTerminal present direct)
    simp [MatchSpan.ofTerminal, Built.ofSpans]
  · intro element elements position spans stop kind present series chained filled
    have each : ∀ child ∈ spans, child.isEmpty = false → Built.Visited grammar effect child :=
      chained.forall_mem fun _ _ _ _ both => both.2
    have hollow : ∀ child ∈ spans, child.isEmpty = true → child.calls grammar = [] :=
      chained.forall_mem fun _ _ _ _ both => both.1.calls_eq_nil grounded
    exact Built.visited_of_inner filled (Built.visitAll_eq each hollow)
      (Built.visit_of_isSeries present series)
  · intro element child position span stop kind present chooses inside hypothesis filled
    refine Built.visited_of_inner filled ?_ (Built.visit_of_isTransparent present chooses)
    cases empty : span.isEmpty with
    | true =>
      simp [MatchSpan.around, Built.visitFirst, Built.ofSpans, empty,
        inside.calls_eq_nil grounded empty]
    | false =>
      have visited := hypothesis empty
      rw [Built.Visited] at visited
      simp [MatchSpan.around, Built.visitFirst, Built.ofSpans, empty, visited]
  · intro element position kind present chooses filled
    exact absurd filled (by simp [MatchSpan.around, MatchSpan.isEmpty, MatchSpan.firstStart])

/-- The failures of a derivation that is not empty are those of its calls, in their order. -/
theorem failures_eq (grounded : Grounded grammar.case grammar.elements)
    (derivation : Derivation grammar budget tokens element position span stop) :
    span.isEmpty = false →
      (Built.ofSpan grammar span).failures = (span.calls grammar).filterMap Call.failure? := by
  refine Derivation.induction_on_kind (motive := fun _ _ span _ => span.isEmpty = false →
    (Built.ofSpan grammar span).failures = (span.calls grammar).filterMap Call.failure?)
    grounded ?_ ?_ ?_ ?_ derivation
  · intro element position start stop kind present direct after within filled
    rw [Built.failures_ofSpan filled, MatchSpan.calls_eq, Built.beforeAction,
      Built.assemble_of_isTerminal present direct]
    rfl
  · intro element elements position spans stop kind present series chained filled
    have each : ∀ child ∈ spans, child.isEmpty = false → (Built.ofSpan grammar child).failures =
        (child.calls grammar).filterMap Call.failure? :=
      chained.forall_mem fun _ _ _ _ both => both.2
    have hollow : ∀ child ∈ spans, child.isEmpty = true → child.calls grammar = [] :=
      chained.forall_mem fun _ _ _ _ both => both.1.calls_eq_nil grounded
    rw [Built.failures_ofSpan filled, MatchSpan.calls_eq, List.filterMap_append,
      Built.beforeAction, Built.assemble_of_isSeries present series]
    exact congrArg (· ++ _) (Built.failures_ofSpans each hollow)
  · intro element child position span stop kind present chooses inside hypothesis filled
    rw [Built.failures_ofSpan filled, MatchSpan.calls_eq, List.filterMap_append,
      Built.beforeAction, Built.assemble_of_isTransparent present chooses]
    cases empty : span.isEmpty with
    | true =>
      simp [MatchSpan.around, Built.ofSpans, empty, Built.absent,
        inside.calls_eq_nil grounded empty]
    | false =>
      simp [MatchSpan.around, Built.ofSpans, empty, Built.wrap, hypothesis empty]
  · intro element position kind present chooses filled
    exact absurd filled (by simp [MatchSpan.around, MatchSpan.isEmpty, MatchSpan.firstStart])

end Derivation

/-- The action that answers with the value it is given where another one fails. -/
def Action.settled (action : Action) : Action := fun value =>
  match action value with
  | .ok answer => .ok answer
  | .error _ => .ok value

/-- The declaration with actions that never fail. -/
def Declaration.settled (declaration : Declaration) : Declaration :=
  { declaration with
    actions := declaration.actions.map fun entry => (entry.1, Action.settled entry.2) }

/-- The grammar with actions that never fail. -/
def Grammar.settled (grammar : Grammar) : Grammar :=
  { grammar with actions := grammar.actions.map fun entry => (entry.1, Action.settled entry.2) }

section

variable {grammar : Grammar} {declaration : Declaration}

/-- An element has the action that it had, settled. -/
theorem Grammar.action?_settled (grammar : Grammar) (id : Nat) :
    grammar.settled.action? id = (grammar.action? id).map Action.settled := by
  rw [action?, action?, settled]
  induction grammar.actions with
  | nil => rfl
  | cons entry rest hypothesis =>
    rw [List.map_cons, List.lookup_cons, List.lookup_cons, hypothesis]
    cases id == entry.1 <;> rfl

/-- Settled actions are attached where the actions are. -/
theorem Declaration.attach_settled (elements : List Element) (actions : List (String × Action))
    (before : List (Nat × Action)) :
    attach elements (actions.map fun entry => (entry.1, Action.settled entry.2))
        (before.map fun entry => (entry.1, Action.settled entry.2)) =
      (attach elements actions before).map
        (List.map fun entry => (entry.1, Action.settled entry.2)) := by
  induction actions generalizing before with
  | nil => rfl
  | cons entry rest hypothesis =>
    obtain ⟨name, action⟩ := entry
    rw [List.map_cons, attach, attach]
    cases elementIndex? elements name with
    | none => rfl
    | some id =>
      simp only
      rw [← hypothesis, List.map_cons, List.filter_map]
      rfl

/-- With settled actions a declaration builds the grammar with settled actions. -/
theorem Declaration.build_settled (built : declaration.build = .ok grammar) :
    declaration.settled.build = .ok grammar.settled := by
  obtain ⟨state, builds⟩ := build_eq_ok_iff.1 built
  refine build_eq_ok_iff.2 ⟨state, builds.distinct, builds.goal, builds.references,
    builds.acyclic, builds.made, ?_, builds.elements, builds.root, builds.case⟩
  have attached := attach_settled state.elements declaration.actions []
  rw [builds.attached] at attached
  exact attached

/-- Actions take no part in the search. -/
theorem Grammar.trees_settled (grammar : Grammar) (options : MatchOptions) (tokens : List Token) :
    grammar.settled.trees options tokens = grammar.trees options tokens := rfl

end

namespace Built

/-- A contribution without its failures. -/
def quiet (built : Built) : Built := { built with failures := [] }

/-- A settled action does what the action does, and does not fail. -/
theorem applyAction_settled (action : Option Action) (name : String) (built : Built) :
    applyAction (action.map Action.settled) name built.quiet =
      (applyAction action name built).quiet := by
  cases action with
  | none => rfl
  | some action =>
    rw [Option.map_some, applyAction, applyAction, quiet, Action.settled]
    cases action built.value <;> rfl

/-- Children without failures are combined to the same map. -/
theorem combine_quiet (explicit : Bool) (children : List (String × Built)) :
    combine explicit (children.map fun child => (child.1, child.2.quiet)) =
      (combine explicit children).quiet := by
  have names : (children.map fun child => (child.1, child.2.quiet)).map (·.1) =
      children.map (·.1) := by
    rw [List.map_map]
    rfl
  have failures : (children.map fun child => (child.1, child.2.quiet)).flatMap (·.2.failures) =
      [] := by
    rw [List.flatMap_map]
    exact List.flatMap_eq_nil_iff.2 fun _ _ => rfl
  rw [combine, names, failures, List.foldl_map, List.foldl_map, List.flatMap_map]
  rfl

/-- Children without failures contribute the same. -/
theorem assemble_settled (grammar : Grammar) (span : MatchSpan) (inner : List (String × Built)) :
    assemble grammar.settled span (inner.map fun child => (child.1, child.2.quiet)) =
      (assemble grammar span inner).quiet := by
  unfold assemble
  rw [show grammar.settled.elements = grammar.elements from rfl]
  split
  · cases inner <;> rfl
  · cases inner <;> rfl
  · exact combine_quiet _ _
  · exact combine_quiet _ _
  · rfl

mutual

/-- With settled actions a span contributes the same without failures. -/
theorem ofSpan_settled (grammar : Grammar) : ∀ span : MatchSpan,
    ofSpan grammar.settled span = (ofSpan grammar span).quiet
  | ⟨element, name, start, stop, text, skipped, children⟩ => by
    rw [ofSpan_eq, ofSpan_eq, beforeAction, beforeAction, ofSpans_settled grammar children,
      assemble_settled, Grammar.action?_settled, applyAction_settled]

/-- With settled actions several spans contribute the same without failures. -/
theorem ofSpans_settled (grammar : Grammar) : ∀ spans : List MatchSpan,
    ofSpans grammar.settled spans =
      (ofSpans grammar spans).map fun child => (child.1, child.2.quiet)
  | [] => rfl
  | span :: rest => by
    rw [ofSpans, ofSpans, ofSpans_settled grammar rest, ofSpan_settled grammar span]
    split <;> rfl

end

end Built

section

variable {grammar : Grammar} {declaration : Declaration}

/-- With settled actions a tree has the same result without failures. -/
theorem ParseTree.result_settled (grammar : Grammar) (tree : ParseTree) :
    tree.result grammar.settled = { tree.result grammar with failures := [] } := by
  rw [result_eq, result_eq, Built.ofSpan_settled]
  split <;> rfl

/-- The calls for a tree with a derivation are noted in their order. -/
theorem Derivation.run_resultThrough {budget : SkipBudget} {tokens : List Token}
    {element position stop : Nat} {span : MatchSpan}
    (grounded : Grounded grammar.case grammar.elements)
    (derivation : Derivation grammar budget tokens element position span stop) :
    ((ParseTree.ofRoot span tokens).resultThrough grammar Call.logged).run [] =
      ((ParseTree.ofRoot span tokens).result grammar, span.calls grammar) := by
  rw [ParseTree.resultThrough, ParseTree.result_eq, ParseTree.ofRoot_root]
  cases empty : span.isEmpty with
  | true =>
    rw [derivation.calls_eq_nil grounded empty]
    rfl
  | false =>
    have visited := derivation.visited (m := StateM (List Call))
      (fun call => modify (· ++ [call])) grounded empty
    rw [if_neg Bool.false_ne_true, if_neg Bool.false_ne_true, Call.logged, visited, bind_assoc,
      StateT.run_bind, Call.run_forM_log]
    rfl

/-- The failures of the result of a derivation are those of its calls. -/
theorem Derivation.failures_result {budget : SkipBudget} {tokens : List Token}
    {element position stop : Nat} {span : MatchSpan}
    (grounded : Grounded grammar.case grammar.elements)
    (derivation : Derivation grammar budget tokens element position span stop) :
    ((ParseTree.ofRoot span tokens).result grammar).failures =
      (span.calls grammar).filterMap Call.failure? := by
  rw [ParseTree.result_eq, ParseTree.ofRoot_root]
  cases empty : span.isEmpty with
  | true =>
    rw [derivation.calls_eq_nil grounded empty]
    rfl
  | false => exact derivation.failures_eq grounded empty

/-- An action that fails changes nothing but the list of failures. The action of each element is
called once for each span of the element that covers tokens, after the actions inside the span, with
the value that the span has without it. The failures are those of the calls that fail, in their
order, each with the name of its span, the message and the value given. With actions that answer
with that value instead, the same trees are found, and their results differ in having no failures.
-/
theorem Grammar.failures_disturb_nothing (built : declaration.build = .ok grammar)
    (options : MatchOptions) (tokens : List Token) :
    ∃ settled, declaration.settled.build = .ok settled ∧
      settled.trees options tokens = grammar.trees options tokens ∧
      ∀ tree ∈ grammar.trees options tokens,
        (tree.resultThrough grammar Call.logged).run [] =
          (tree.result grammar, tree.root.calls grammar) ∧
        (tree.root.calls grammar).map Call.span = tree.root.postorder.filter (fun span =>
          !span.isEmpty && (grammar.action? span.element).isSome) ∧
        (∀ call ∈ tree.root.calls grammar,
          grammar.action? call.span.element = some call.action ∧
          call.given = (Built.beforeAction grammar call.span).value) ∧
        (tree.result grammar).failures = (tree.root.calls grammar).filterMap Call.failure? ∧
        tree.result settled = { tree.result grammar with failures := [] } := by
  refine ⟨grammar.settled, declaration.build_settled built, grammar.trees_settled options tokens,
    fun tree member => ?_⟩
  have grounded := Declaration.grounded_of_build built
  obtain ⟨span, position, -, rfl, derivation⟩ :=
    Grammar.exists_derivation_of_mem_trees grounded member
  rw [ParseTree.ofRoot_root]
  exact ⟨derivation.run_resultThrough grounded, span.map_span_calls grammar,
    fun call listed => MatchSpan.action?_of_mem_calls listed, derivation.failures_result grounded,
    ParseTree.result_settled grammar _⟩

/-- Of two commands the first has its color rejected. The color is tried before the command around
it, and both commands are told as if it had stood for itself. -/
theorem Grammar.unknown_color_disturbs_nothing : ∃ grammar, tellingDeclaration.build = .ok grammar ∧
    ∃ tree ∈ grammar.trees {} lightSentence,
      ((tree.resultThrough grammar Call.logged).run []).2.map (·.span.name) =
        ["COLOR", "CLAUSE", "CLAUSE"] ∧
      (tree.result grammar).failures.map (fun failure => (failure.key, failure.message)) =
        [("COLOR", "unknown color")] ∧
      ∃ settled, tellingDeclaration.settled.build = .ok settled ∧
        (tree.result settled).items = (tree.result grammar).items ∧
        (tree.result grammar).items.map Value.asText =
          [some "lamp on red", some "spot off"] := by
  obtain ⟨grammar, built, first⟩ : ∃ grammar, tellingDeclaration.build = .ok grammar ∧
      (grammar.trees {} lightSentence).head?.map (fun tree =>
        ((tree.root.calls grammar).map (·.span.name),
          ((tree.root.calls grammar).filterMap Call.failure?).map fun failure =>
            (failure.key, failure.message),
          (tree.result grammar).items.map Value.asText)) =
        some (["COLOR", "CLAUSE", "CLAUSE"], [("COLOR", "unknown color")],
          [some "lamp on red", some "spot off"]) :=
    exists_built (by decide +kernel)
  obtain ⟨tree, head, read⟩ := Option.map_eq_some_iff.1 first
  obtain ⟨names, read⟩ := Prod.mk.inj read
  obtain ⟨failures, items⟩ := Prod.mk.inj read
  obtain ⟨settled, calm, -, each⟩ := Grammar.failures_disturb_nothing built {} lightSentence
  have member := List.mem_of_mem_head? head
  obtain ⟨logged, -, -, failed, same⟩ := each tree member
  refine ⟨grammar, built, tree, member, ?_, ?_, settled, calm, ?_, items⟩
  · rw [logged, names]
  · rw [failed, failures]
  · rw [same]

end

end Utterance

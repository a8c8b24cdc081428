import Utterance.Proofs.Scopes
import Utterance.Proofs.Spans

/-!
# What a name stands for

Inside a span a name stands for the children with that name, and if there are none, for what it
stands for inside each child (`MatchSpan.bearers`). A result binds each name to the values of these
spans (`Parser.named_view_binds_occurrences`), and so does the map of each span with a series of
children: names of children shadow those further down, but only around these children. The spans
that a name stands for are in order and do not overlap (`Derivation.inOrder_bearers`), so several
values stand in match order.
-/
namespace Utterance

namespace MatchSpan

mutual

/-- The spans that a name stands for inside a span: the children with that name that cover tokens,
or, without any, the spans that it stands for inside each child. -/
def bearers (name : String) : MatchSpan → List MatchSpan
  | ⟨_, _, _, _, _, _, children⟩ =>
    let direct := children.filter fun child => !child.isEmpty && child.name == name
    if direct.isEmpty then bearersOfAll name children else direct

/-- The spans that a name stands for inside each span that covers tokens. -/
def bearersOfAll (name : String) : List MatchSpan → List MatchSpan
  | [] => []
  | child :: rest =>
    if child.isEmpty then bearersOfAll name rest
    else bearers name child ++ bearersOfAll name rest

end

/-- The values of the spans that a name stands for inside a span, after their actions. -/
def occurrences (grammar : Grammar) (name : String) (span : MatchSpan) : List Value :=
  (span.bearers name).map fun bearer => (Built.ofSpan grammar bearer).value

/-- What a name stands for inside several spans is what it stands for in each. -/
theorem bearersOfAll_eq_flatMap (name : String) (spans : List MatchSpan) :
    bearersOfAll name spans = (spans.filter (!·.isEmpty)).flatMap (bearers name) := by
  induction spans with
  | nil => rfl
  | cons span rest hypothesis =>
    rw [bearersOfAll, hypothesis]
    cases empty : span.isEmpty <;> simp [empty]

/-- What a name stands for around children. -/
theorem bearers_around (elements : List Element) (element position stop : Nat)
    (children : List MatchSpan) (name : String) :
    (around elements element position stop children).bearers name =
      if name ∈ (children.filter (!·.isEmpty)).map (·.name) then
        (children.filter (!·.isEmpty)).filter (·.name = name)
      else (children.filter (!·.isEmpty)).flatMap (bearers name) := by
  have direct : (children.filter fun child => !child.isEmpty && child.name == name) =
      (children.filter (!·.isEmpty)).filter (·.name = name) := by
    rw [List.filter_filter]
    refine List.filter_congr fun child _ => ?_
    rw [Bool.and_comm]
    rfl
  rw [around, bearers, bearersOfAll_eq_flatMap, direct]
  by_cases present : name ∈ (children.filter (!·.isEmpty)).map (·.name)
  · obtain ⟨child, listed, named⟩ := List.mem_map.1 present
    have some : (children.filter (!·.isEmpty)).filter (·.name = name) ≠ [] :=
      List.ne_nil_of_mem (List.mem_filter.2 ⟨listed, decide_eq_true named⟩)
    rw [if_pos present, if_neg (by simpa using some)]
  · have none : (children.filter (!·.isEmpty)).filter (·.name = name) = [] := by
      refine List.filter_eq_nil_iff.2 fun child member same => present ?_
      exact List.mem_map.2 ⟨child, member, of_decide_eq_true same⟩
    rw [if_neg present, none]
    rfl

end MatchSpan

section

variable {grammar : Grammar} {budget : SkipBudget} {tokens : List Token}
  {element position stop : Nat} {span : MatchSpan}

/-- The spans that a name stands for inside a derivation cover tokens and follow one another. -/
theorem Derivation.inOrder_bearers (grounded : Grounded grammar.case grammar.elements)
    (derivation : Derivation grammar budget tokens element position span stop) (name : String) :
    MatchSpan.InOrder position (span.bearers name) stop := by
  refine Derivation.induction (motive := fun element position span stop =>
    Derivation grammar budget tokens element position span stop →
      MatchSpan.InOrder position (span.bearers name) stop) grounded ?_ ?_ derivation derivation
  · intro element position start stop whole
    exact whole.le_stop grounded
  · intro element elements position spans stop chained whole
    rw [MatchSpan.bearers_around]
    split
    · rw [List.filter_filter, ← List.flatMap_singleton' (List.filter _ spans)]
      refine (chained.imp fun _ _ position child stop both => ?_).inOrder_flatMap
      refine ⟨both.1.le_stop grounded, fun chosen => both.1.inOrder_singleton grounded ?_⟩
      simp only [Bool.and_eq_true, Bool.not_eq_true'] at chosen
      exact chosen.2
    · refine (chained.imp fun _ _ position child stop both => ?_).inOrder_flatMap
      exact ⟨both.1.le_stop grounded, fun _ => both.2 both.1⟩

/-- Calling an action keeps the names that are bound. -/
theorem Built.scope_applyAction (action : Option Action) (name : String) (built : Built) :
    (built.applyAction action name).scope = built.scope := by
  unfold applyAction
  split
  · rfl
  · split <;> rfl

/-- A span binds what it binds before its action. -/
theorem Built.scope_ofSpan (grammar : Grammar) (span : MatchSpan) :
    (ofSpan grammar span).scope = (beforeAction grammar span).scope := by
  rw [ofSpan_eq, scope_applyAction]

/-- Whether the scope of a contribution is in order and binds each name to its occurrences inside a
span. -/
def Built.Binds (grammar : Grammar) (span : MatchSpan) (built : Built) : Prop :=
  built.scope.Ordered ∧ ∀ name, built.scope.valuesOf name = span.occurrences grammar name

/-- A series of children binds each name to its occurrences, if each child does. -/
theorem Built.binds_combine {spans : List MatchSpan}
    (each : ∀ child ∈ spans, (Built.ofSpan grammar child).Binds grammar child) (explicit : Bool)
    (elements : List Element) (element position stop : Nat) :
    (combine explicit (ofSpans grammar spans)).Binds grammar
      (.around elements element position stop spans) := by
  have ordered : ∀ child ∈ ofSpans grammar spans, child.2.scope.Ordered := by
    rw [ofSpans_eq_map]
    intro child member
    obtain ⟨span, listed, rfl⟩ := List.mem_map.1 member
    exact (each span (List.mem_filter.1 listed).1).1
  refine ⟨ordered_combine explicit ordered, fun name => ?_⟩
  have names : (ofSpans grammar spans).map (·.1) = (spans.filter (!·.isEmpty)).map (·.name) := by
    rw [ofSpans_eq_map, List.map_map]
    rfl
  rw [valuesOf_combine explicit ordered, names, MatchSpan.occurrences, MatchSpan.bearers_around,
    ofSpans_eq_map]
  by_cases direct : name ∈ (spans.filter (!·.isEmpty)).map (·.name)
  · rw [if_pos direct, if_pos direct, List.filter_map, List.map_map]
    rfl
  · rw [if_neg direct, if_neg direct, List.flatMap_map, List.map_flatMap]
    refine List.flatMap_congr fun child member => ?_
    exact (each child (List.mem_filter.1 member).1).2 name

/-- Around one child each name is bound to its occurrences, if the child binds it so. -/
theorem Built.binds_around {child : MatchSpan} (filled : child.isEmpty = false)
    (binds : (Built.ofSpan grammar child).Binds grammar child) (elements : List Element)
    (element position stop : Nat) (name : String) :
    (Scope.float [child.name] (ofSpan grammar child).scope
      (Scope.add child.name [(ofSpan grammar child).value] [])).valuesOf name =
      (MatchSpan.around elements element position stop [child]).occurrences grammar name := by
  rw [valuesOf_around binds.1, MatchSpan.occurrences, MatchSpan.bearers_around]
  by_cases same : name = child.name
  · simp [filled, same]
  · simp [filled, same, binds.2 name, MatchSpan.occurrences]

/-- What a derivation contributes binds each name to its occurrences. -/
theorem Derivation.binds (grounded : Grounded grammar.case grammar.elements)
    (derivation : Derivation grammar budget tokens element position span stop) :
    (Built.ofSpan grammar span).Binds grammar span := by
  have nothing : ∀ {span : MatchSpan}, (Built.ofSpan grammar span).scope = [] →
      (∀ name, span.bearers name = []) → (Built.ofSpan grammar span).Binds grammar span := by
    intro span bare none
    rw [Built.Binds, bare]
    exact ⟨.nil, fun name => by simp [MatchSpan.occurrences, none]⟩
  refine Derivation.induction_on_kind (motive := fun _ _ span _ =>
    (Built.ofSpan grammar span).Binds grammar span) grounded ?_ ?_ ?_ ?_ derivation
  · intro element position start stop kind present direct after filled
    refine nothing ?_ fun name => rfl
    rw [Built.scope_ofSpan, Built.beforeAction, Built.assemble_of_isTerminal present direct]
  · intro element elements position spans stop kind present series chained
    rw [Built.Binds, Built.scope_ofSpan, Built.beforeAction,
      Built.assemble_of_isSeries present series]
    exact Built.binds_combine (chained.forall_mem fun _ _ _ _ both => both.2) _ _ _ _ _
  · intro element child position span stop kind present chooses inside binds
    cases empty : span.isEmpty with
    | true =>
      refine nothing ?_ fun name => by simp [MatchSpan.bearers_around, empty]
      rw [Built.scope_ofSpan, Built.beforeAction, Built.assemble_of_isTransparent present chooses]
      simp [MatchSpan.around, Built.ofSpans, empty, Built.absent]
    | false =>
      rw [Built.Binds, Built.scope_ofSpan, Built.beforeAction,
        Built.assemble_of_isTransparent present chooses]
      simp only [MatchSpan.around, Built.ofSpans, empty]
      exact ⟨Built.ordered_around binds.1 _, Built.binds_around empty binds _ _ _ _⟩
  · intro element position kind present chooses
    refine nothing ?_ fun name => rfl
    rw [Built.scope_ofSpan, Built.beforeAction, Built.assemble_of_isTransparent present chooses]
    rfl

/-- The map of a series of children binds each name to its occurrences. -/
theorem Derivation.map_binds (grounded : Grounded grammar.case grammar.elements)
    (derivation : Derivation grammar budget tokens element position span stop) {kind : Kind}
    (present : kindOf? grammar.elements span.element = some kind) (series : kind.isSeries = true) :
    ∃ items named, (Built.beforeAction grammar span).value = .map items named ∧
      ∀ name, named.lookup name = Scope.bound? (span.occurrences grammar name) := by
  obtain ⟨ordered, binds⟩ := derivation.binds grounded
  rw [Built.scope_ofSpan] at ordered binds
  refine ⟨(Built.ofSpans grammar span.children).flatMap (·.2.items),
    (Built.beforeAction grammar span).scope.toNamed, ?_, fun name => ?_⟩
  · rw [Built.beforeAction, Built.assemble_of_isSeries present series]
    rfl
  · rw [Scope.lookup_toNamed ordered, binds]

/-- The result of a derivation binds the name of its span to its value, and every other name to its
occurrences. -/
theorem Derivation.get?_result (grounded : Grounded grammar.case grammar.elements)
    (derivation : Derivation grammar budget tokens element position span stop)
    (filled : span.isEmpty = false) (name : String) :
    ((ParseTree.ofRoot span tokens).result grammar).get? name =
      Scope.bound? (if name = span.name then [(Built.ofSpan grammar span).value]
        else span.occurrences grammar name) := by
  obtain ⟨ordered, binds⟩ := derivation.binds grounded
  rw [ParseTree.result_eq, ParseTree.ofRoot_root, filled, if_neg Bool.false_ne_true,
    ParseResult.get?, Built.toResult, Scope.lookup_toNamed (Built.ordered_around ordered _),
    Built.valuesOf_around ordered, binds]

/-- A parse that is not empty binds the name of its root to the value of the root, and every other
name to its occurrences: to nothing if there are none, to the value if there is one, and to the list
of the values if there are several. The map of each span with a series of children binds every name
in the same way. The spans that a name stands for cover tokens and follow one another. -/
theorem Parser.named_view_binds_occurrences {declaration : Declaration} {parser : Parser}
    (built : declaration.build = .ok parser.grammar) (tokens : List Token) :
    ∀ outcome ∈ parser.parseAllTokens tokens, outcome.tree.root.isEmpty = false →
      (∀ name, outcome.result.get? name =
        Scope.bound? (if name = outcome.tree.root.name
          then [(Built.ofSpan parser.grammar outcome.tree.root).value]
          else outcome.tree.root.occurrences parser.grammar name)) ∧
      (∀ span ∈ outcome.tree.root.postorder, span.isEmpty = false →
        ∀ kind, kindOf? parser.grammar.elements span.element = some kind → kind.isSeries = true →
          ∃ items named, (Built.beforeAction parser.grammar span).value = .map items named ∧
            ∀ name, named.lookup name =
              Scope.bound? (span.occurrences parser.grammar name)) ∧
      (∀ span ∈ outcome.tree.root.postorder, ∀ name,
        (∀ bearer ∈ span.bearers name, bearer.start < bearer.stop) ∧
        (span.bearers name).Pairwise fun left right => left.stop ≤ right.start) := by
  intro outcome member filled
  have grounded := Declaration.grounded_of_build built
  obtain ⟨position, tree, result, derivation⟩ := Parser.exists_derivation grounded member
  refine ⟨fun name => ?_, fun span within _ kind present series => ?_, fun span within name => ?_⟩
  · have bound := derivation.get?_result grounded filled name
    rwa [← tree, ← result] at bound
  · obtain ⟨origin, inside⟩ := derivation.of_mem_postorder grounded span within
    exact inside.map_binds grounded present series
  · obtain ⟨origin, inside⟩ := derivation.of_mem_postorder grounded span within
    have order := inside.inOrder_bearers grounded name
    exact ⟨fun bearer listed => (order.forall_mem bearer listed).2.1, order.pairwise⟩

/-- Values that are read as texts are these texts. -/
theorem Value.eq_map_text {values : List Value} {texts : List String}
    (read : values.map Value.asText = texts.map some) : values = texts.map Value.text := by
  induction values generalizing texts with
  | nil =>
    obtain rfl := List.map_eq_nil_iff.1 read.symm
    rfl
  | cons value rest hypothesis =>
    cases texts with
    | nil => exact absurd read (by simp)
    | cons text others =>
      obtain ⟨first, later⟩ := List.cons.inj read
      cases value with
      | text content =>
        obtain rfl := Option.some.inj first
        rw [hypothesis later, List.map_cons]
      | nil | number _ | bool _ | list _ | map _ _ => cases first

/-- Two commands bind both of their lights as a list, though an action has put the words of each
command in the place of its map. The only color is bound as it is, and what the commands do not
mention is not bound. -/
theorem Parser.lights_are_bound : ∃ grammar, tellingDeclaration.build = .ok grammar ∧
    ∃ outcome ∈ (Parser.mk grammar {} .blanks).parseAllTokens lightSentence,
      outcome.tree.root.isEmpty = false ∧
      outcome.tree.root.occurrences grammar "LIGHT" = [.text "lamp", .text "spot"] ∧
      outcome.result.get? "LIGHT" = some (.list [.text "lamp", .text "spot"]) ∧
      outcome.tree.root.occurrences grammar "COLOR" = [.text "red"] ∧
      outcome.result.get? "COLOR" = some (.text "red") ∧
      outcome.result.get? "SIZE" = none ∧
      (outcome.tree.root.bearers "LIGHT").Pairwise fun left right => left.stop ≤ right.start := by
  obtain ⟨grammar, built, first⟩ : ∃ grammar, tellingDeclaration.build = .ok grammar ∧
      ((Parser.mk grammar {} .blanks).parseAllTokens lightSentence).head?.map (fun outcome =>
        (outcome.tree.root.isEmpty, outcome.tree.root.name,
          (["LIGHT", "COLOR", "SIZE"].map fun name =>
            (outcome.tree.root.occurrences grammar name).map Value.asText))) =
        some (false, "GOAL", [[some "lamp", some "spot"], [some "red"], []]) :=
    exists_built (by decide +kernel)
  obtain ⟨outcome, head, read⟩ := Option.map_eq_some_iff.1 first
  obtain ⟨filled, read⟩ := Prod.mk.inj read
  obtain ⟨goal, read⟩ := Prod.mk.inj read
  obtain ⟨lights, read⟩ := List.cons.inj read
  obtain ⟨colors, read⟩ := List.cons.inj read
  obtain ⟨sizes, -⟩ := List.cons.inj read
  have member := List.mem_of_mem_head? head
  obtain ⟨bound, -, order⟩ := Parser.named_view_binds_occurrences
    (show tellingDeclaration.build = .ok (Parser.mk grammar {} .blanks).grammar from built)
    lightSentence outcome member filled
  have pair : outcome.tree.root.occurrences grammar "LIGHT" = ["lamp", "spot"].map Value.text :=
    Value.eq_map_text lights
  have red : outcome.tree.root.occurrences grammar "COLOR" = ["red"].map Value.text :=
    Value.eq_map_text colors
  have absent : outcome.tree.root.occurrences grammar "SIZE" = [] := List.map_eq_nil_iff.1 sizes
  refine ⟨grammar, built, outcome, member, filled, pair, ?_, red, ?_, ?_,
    (order _ (MatchSpan.mem_postorder_self _) "LIGHT").2⟩
  · rw [bound, goal, if_neg (by decide), pair]
    rfl
  · rw [bound, goal, if_neg (by decide), red]
    rfl
  · rw [bound, goal, if_neg (by decide), absent]
    rfl

end

end Utterance

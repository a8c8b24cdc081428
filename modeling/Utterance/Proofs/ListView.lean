import Utterance.Proofs.Spans

/-!
# The list view keeps every leaf

Where no element has an action, the items of a result hold the texts of the leaves: with each map
replaced by its own items (`Value.flat`) they are these texts in order, whichever elements were
spliced in and whichever stand as one item (`Parser.list_view_keeps_every_leaf`). The same holds for
the value of every span (`Derivation.flat_value`).

Joining texts drops those that are empty, so it does not matter how the texts are grouped
(`Value.joinTexts_append`), and the words of a result are those of its leaves.
-/
namespace Utterance

namespace Value

mutual

/-- The items of a map, with each map among them replaced by its own, and any other value alone. -/
def flat : Value → List Value
  | .map items _ => flatAll items
  | value => [value]

/-- Values with each map replaced by its items. -/
def flatAll : List Value → List Value
  | [] => []
  | value :: rest => flat value ++ flatAll rest

end

/-- Values are replaced one by one. -/
theorem flatAll_eq_flatMap (values : List Value) : flatAll values = values.flatMap flat := by
  induction values with
  | nil => rfl
  | cons value rest hypothesis => rw [flatAll, hypothesis, List.flatMap_cons]

/-- The words of several values are those of each. -/
theorem wordsOfAll_eq_map (values : List Value) : wordsOfAll values = values.map words := by
  induction values with
  | nil => rfl
  | cons value rest hypothesis => rw [wordsOfAll, hypothesis, List.map_cons]

/-- Two texts with a blank between them, unless one is empty. -/
def joined (left right : String) : String :=
  if left = "" then right else if right = "" then left else left ++ " " ++ right

/-- Texts with a blank between any two are empty only if the first is. -/
theorem intercalate_ne_empty {text : String} (filled : text ≠ "") (rest : List String) :
    " ".intercalate (text :: rest) ≠ "" := by
  cases rest with
  | nil => rwa [String.intercalate_singleton]
  | cons next others =>
    rw [String.intercalate_cons_cons]
    simp [filled]

/-- The first text is joined to the others. -/
theorem joinTexts_cons (text : String) (rest : List String) :
    joinTexts (text :: rest) = joined text (joinTexts rest) := by
  unfold joinTexts joined
  by_cases empty : text = ""
  · simp [empty]
  · rw [List.filter_cons_of_pos (by simpa using empty), if_neg empty]
    cases others : rest.filter (· ≠ "") with
    | nil => simp
    | cons next more =>
      have filled : next ≠ "" := by
        have member : next ∈ rest.filter (· ≠ "") := others ▸ List.mem_cons_self
        simpa using (List.mem_filter.1 member).2
      rw [if_neg (intercalate_ne_empty filled more), String.intercalate_cons_cons]

/-- Three texts may be joined in either order. -/
theorem joined_assoc (left middle right : String) :
    joined (joined left middle) right = joined left (joined middle right) := by
  unfold joined
  by_cases first : left = "" <;> by_cases second : middle = "" <;> by_cases third : right = "" <;>
    simp [first, second, third, String.append_assoc]

/-- Texts may be joined in two parts. -/
theorem joinTexts_append (left right : List String) :
    joinTexts (left ++ right) = joined (joinTexts left) (joinTexts right) := by
  induction left with
  | nil => simp [joinTexts, joined]
  | cons text rest hypothesis =>
    rw [List.cons_append, joinTexts_cons, joinTexts_cons, hypothesis, joined_assoc]

/-- A text joined to nothing. -/
theorem joinTexts_singleton (text : String) : joinTexts [text] = text := by
  rw [joinTexts_cons]
  simp [joinTexts, joined]

mutual

/-- A value has the words of its items. -/
theorem joinTexts_flat : ∀ value : Value, joinTexts (wordsOfAll value.flat) = value.words
  | .map items _ => by
    rw [flat, words]
    exact joinTexts_flatAll items
  | .nil => joinTexts_singleton _
  | .text _ => joinTexts_singleton _
  | .number _ => joinTexts_singleton _
  | .bool _ => joinTexts_singleton _
  | .list _ => joinTexts_singleton _

/-- Values have the words of their items. -/
theorem joinTexts_flatAll : ∀ values : List Value,
    joinTexts (wordsOfAll (flatAll values)) = joinTexts (wordsOfAll values)
  | [] => rfl
  | value :: rest => by
    rw [flatAll, wordsOfAll_eq_map, List.map_append, joinTexts_append, ← wordsOfAll_eq_map,
      ← wordsOfAll_eq_map, joinTexts_flat value, joinTexts_flatAll rest, wordsOfAll, joinTexts_cons]

end

end Value

namespace MatchSpan

/-- The text of a terminal as a value. -/
def asValue (span : MatchSpan) : Value := .text (span.text.getD "")

end MatchSpan

namespace Built

/-- Spliced in or not, a value that is there contributes its items. -/
theorem flatAll_items {built : Built} (present : built.value ≠ .nil) :
    Value.flatAll built.items = built.value.flat := by
  obtain ⟨value, scope, grouped, failures⟩ := built
  cases value with
  | nil => exact absurd rfl present
  | map inner named =>
    cases grouped with
    | false => rfl
    | true => exact List.append_nil _
  | text _ | number _ | bool _ | list _ => rfl

/-- The items that spans contribute are the texts of their leaves, if those of each span that covers
tokens are. -/
theorem flatAll_ofSpans {grammar : Grammar} {spans : List MatchSpan}
    (each : ∀ span ∈ spans, span.isEmpty = false →
      Value.flatAll (ofSpan grammar span).items = span.leaves.map MatchSpan.asValue)
    (hollow : ∀ span ∈ spans, span.isEmpty = true → span.leaves = []) :
    Value.flatAll ((ofSpans grammar spans).flatMap (·.2.items)) =
      (spans.flatMap MatchSpan.leaves).map MatchSpan.asValue := by
  have filled : (spans.filter (!·.isEmpty)).flatMap MatchSpan.leaves =
      spans.flatMap MatchSpan.leaves :=
    flatMap_filter_of_nil spans fun span member empty => hollow span member (by simpa using empty)
  rw [ofSpans_eq_map, List.flatMap_map, Value.flatAll_eq_flatMap, List.flatMap_assoc, ← filled,
    List.map_flatMap]
  refine List.flatMap_congr fun span member => ?_
  obtain ⟨listed, covers⟩ := List.mem_filter.1 member
  rw [← Value.flatAll_eq_flatMap]
  exact each span listed (by simpa using covers)

/-- Without actions a span contributes what it does before its action. -/
theorem ofSpan_of_plain {grammar : Grammar} (plain : grammar.actions = []) (span : MatchSpan) :
    ofSpan grammar span = beforeAction grammar span := by
  rw [ofSpan_eq, Grammar.action?, plain]
  rfl

end Built

section

variable {grammar : Grammar} {budget : SkipBudget} {tokens : List Token}
  {element position stop : Nat} {span : MatchSpan}

/-- A value whose items are the texts of leaves is there. -/
theorem Built.value_ne_nil {built : Built} (shown : span.leaves ≠ [])
    (same : built.value.flat = span.leaves.map MatchSpan.asValue) : built.value ≠ .nil := by
  intro none
  rw [none] at same
  cases leaves : span.leaves with
  | nil => exact shown leaves
  | cons leaf rest =>
    rw [leaves] at same
    exact absurd (List.cons.inj same).1 (by simp [MatchSpan.asValue])

/-- Without actions, the items of the value of a span that is not empty are the texts of its
leaves. -/
theorem Derivation.flat_value (grounded : Grounded grammar.case grammar.elements)
    (plain : grammar.actions = [])
    (derivation : Derivation grammar budget tokens element position span stop) :
    span.leaves ≠ [] →
      (Built.ofSpan grammar span).value.flat = span.leaves.map MatchSpan.asValue := by
  refine Derivation.induction_on_kind (motive := fun _ _ span _ => span.leaves ≠ [] →
    (Built.ofSpan grammar span).value.flat = span.leaves.map MatchSpan.asValue)
    grounded ?_ ?_ ?_ ?_ derivation
  · intro element position start stop kind present direct after filled shown
    rw [Built.ofSpan_of_plain plain, Built.beforeAction,
      Built.assemble_of_isTerminal present direct]
    rfl
  · intro element elements position spans stop kind present series chained shown
    have below : ∀ child ∈ spans, child.isEmpty = false →
        Value.flatAll (Built.ofSpan grammar child).items = child.leaves.map MatchSpan.asValue := by
      refine chained.forall_mem fun _ _ child _ both filled => ?_
      have present : child.leaves ≠ [] := fun none => by
        simp [(both.1.isEmpty_iff grounded).2 none] at filled
      rw [Built.flatAll_items (Built.value_ne_nil present (both.2 present)), both.2 present]
    have hollow : ∀ child ∈ spans, child.isEmpty = true → child.leaves = [] :=
      chained.forall_mem fun _ _ _ _ both => (both.1.isEmpty_iff grounded).1
    rw [Built.ofSpan_of_plain plain, Built.beforeAction, Built.assemble_of_isSeries present series,
      MatchSpan.leaves_around]
    exact Built.flatAll_ofSpans below hollow
  · intro element child position span stop kind present chooses inside hypothesis shown
    rw [MatchSpan.leaves_around, List.flatMap_singleton] at shown ⊢
    have filled : span.isEmpty = false := by
      rw [← Bool.not_eq_true, inside.isEmpty_iff grounded]
      exact shown
    rw [Built.ofSpan_of_plain plain, Built.beforeAction,
      Built.assemble_of_isTransparent present chooses]
    simpa [MatchSpan.around, Built.ofSpans, filled, Built.wrap] using hypothesis shown
  · intro element position kind present chooses shown
    exact absurd rfl shown

end

section

variable {grammar : Grammar} {budget : SkipBudget} {tokens : List Token}
  {element position stop : Nat} {span : MatchSpan}

/-- Without actions, the items of the result of a derivation are the texts of its leaves. -/
theorem Derivation.flatAll_result (grounded : Grounded grammar.case grammar.elements)
    (plain : grammar.actions = [])
    (derivation : Derivation grammar budget tokens element position span stop) :
    Value.flatAll ((ParseTree.ofRoot span tokens).result grammar).items =
      span.leaves.map MatchSpan.asValue := by
  rw [ParseTree.result_eq, ParseTree.ofRoot_root]
  cases empty : span.isEmpty with
  | true =>
    rw [(derivation.isEmpty_iff grounded).1 empty]
    rfl
  | false =>
    have shown : span.leaves ≠ [] := fun none => by
      simp [(derivation.isEmpty_iff grounded).2 none] at empty
    have same := derivation.flat_value grounded plain shown
    have present := Built.value_ne_nil shown same
    rw [← same, if_neg Bool.false_ne_true, Built.toResult]
    cases value : (Built.ofSpan grammar span).value with
    | nil => exact absurd value present
    | map items named => rfl
    | text _ | number _ | bool _ | list _ => rfl

/-- Without actions no result loses or repeats a leaf: with each map replaced by its own items, the
items of a parse are the texts of the leaves of its tree, in order and one for each leaf, and so are
those of the value of each span that is not empty. The words of the result are the texts of the
leaves that are not empty, with one blank between any two. -/
theorem Parser.list_view_keeps_every_leaf {declaration : Declaration} {parser : Parser}
    (built : declaration.build = .ok parser.grammar) (plain : parser.grammar.actions = [])
    (tokens : List Token) :
    ∀ outcome ∈ parser.parseAllTokens tokens,
      Value.flatAll outcome.result.items = outcome.tree.root.leaves.map MatchSpan.asValue ∧
      (∀ span ∈ outcome.tree.root.postorder, span.isEmpty = false →
        (Built.ofSpan parser.grammar span).value.flat = span.leaves.map MatchSpan.asValue) ∧
      outcome.result.words =
        " ".intercalate ((outcome.tree.root.leaves.map fun leaf => leaf.text.getD "").filter
          (· ≠ "")) := by
  intro outcome member
  have grounded := Declaration.grounded_of_build built
  obtain ⟨position, tree, result, derivation⟩ := Parser.exists_derivation grounded member
  have items := derivation.flatAll_result grounded plain
  rw [← tree, ← result] at items
  refine ⟨items, fun inner within filled => ?_, ?_⟩
  · obtain ⟨origin, below⟩ := derivation.of_mem_postorder grounded inner within
    refine below.flat_value grounded plain fun none => ?_
    simp [(below.isEmpty_iff grounded).2 none] at filled
  · rw [ParseResult.words, Value.words, ← Value.joinTexts_flatAll, items,
      Value.wordsOfAll_eq_map, List.map_map]
    rfl

/-- Of two commands the items are the words, though each command is an item of its own and has two
of its words from an element that is spliced in. -/
theorem Parser.light_list_view : ∃ grammar, lightDeclaration.build = .ok grammar ∧
    grammar.actions = [] ∧
    ∃ outcome ∈ (Parser.mk grammar {} .blanks).parseAllTokens lightSentence,
      Value.flatAll outcome.result.items =
        [.text "lamp", .text "on", .text "red", .text "spot", .text "off"] ∧
      outcome.result.words = "lamp on red spot off" := by
  obtain ⟨grammar, built, read⟩ : ∃ grammar, lightDeclaration.build = .ok grammar ∧
      (grammar.actions.isEmpty,
        ((Parser.mk grammar {} .blanks).parseAllTokens lightSentence).head?.map fun outcome =>
          outcome.tree.root.leaves.map fun leaf => leaf.text.getD "") =
        (true, some ["lamp", "on", "red", "spot", "off"]) :=
    exists_built (by decide +kernel)
  obtain ⟨none, first⟩ := Prod.mk.inj read
  have plain : grammar.actions = [] := List.isEmpty_iff.1 none
  obtain ⟨outcome, head, texts⟩ := Option.map_eq_some_iff.1 first
  have member := List.mem_of_mem_head? head
  obtain ⟨items, -, words⟩ := Parser.list_view_keeps_every_leaf
    (show lightDeclaration.build = .ok (Parser.mk grammar {} .blanks).grammar from built) plain
    lightSentence outcome member
  have values : outcome.tree.root.leaves.map MatchSpan.asValue =
      (outcome.tree.root.leaves.map fun leaf => leaf.text.getD "").map Value.text := by
    rw [List.map_map]
    rfl
  rw [values, texts] at items
  rw [texts] at words
  exact ⟨grammar, built, plain, outcome, member, items, words.trans (by decide +kernel)⟩

end

end Utterance

import Utterance.Parser
import Utterance.Proofs.Renumbering

/-!
# Grammars with the same elements in another order

A grammar is the counterpart of another one when it has its elements, renumbered, with the same
root, actions and case policy (`Grammar.Counterpart`). The trees of its parses have the spans of the
other one's with the places of elements renumbered, and nothing else in them changes. Results are
made of names, texts and flags, so they do not change at all (`Grammar.Counterpart.ofSpan`), and
parsers of the two grammars have the same parses in the same order
(`Grammar.Counterpart.parseAllTokens`).
-/
namespace Utterance

namespace MatchSpan

mutual

/-- The span with the places of elements renumbered. -/
def renumber (shift : Nat → Nat) : MatchSpan → MatchSpan
  | ⟨element, name, start, stop, text, skipped, children⟩ =>
    { element := shift element, name, start, stop, text, skipped
      children := renumberAll shift children }

/-- The spans with the places of elements renumbered. -/
def renumberAll (shift : Nat → Nat) : List MatchSpan → List MatchSpan
  | [] => []
  | span :: rest => renumber shift span :: renumberAll shift rest

end

variable (shift : Nat → Nat) (span : MatchSpan)

/-- The name of a span stays. -/
@[simp] theorem renumber_name : (span.renumber shift).name = span.name := by
  cases span
  rfl

/-- Where a span starts stays. -/
@[simp] theorem renumber_start : (span.renumber shift).start = span.start := by
  cases span
  rfl

/-- Where a span stops stays. -/
@[simp] theorem renumber_stop : (span.renumber shift).stop = span.stop := by
  cases span
  rfl

/-- A span is empty when it was. -/
@[simp] theorem renumber_isEmpty : (span.renumber shift).isEmpty = span.isEmpty := by
  simp [isEmpty]

/-- The places between matches stay. -/
theorem gapsBetween_renumber (candidates : List Candidate) (previous : Option Nat) :
    gapsBetween previous (Candidate.renumberAll shift candidates) =
      gapsBetween previous candidates := by
  induction candidates generalizing previous with
  | nil => rfl
  | cons candidate rest hypothesis =>
    rw [Candidate.renumberAll, gapsBetween, gapsBetween, hypothesis, hypothesis]
    simp

variable {shift} {elements image : List Element}

mutual

/-- The span of a renumbered candidate is the span of the candidate, renumbered. -/
theorem ofCandidate_renumber (renumbered : Renumbered shift elements image) (tokens : List Token) :
    ∀ candidate, ofCandidate image tokens (candidate.renumber shift) =
      (ofCandidate elements tokens candidate).renumber shift
  | ⟨element, extent, children⟩ => by
    have below := ofCandidates_renumber renumbered tokens children
    simp only [Candidate.renumber, ofCandidate, renumber, renumbered.elementName_eq,
      renumbered.getElem?_eq, gapsBetween_renumber, below,
      Option.any_map, Element.renumber, Kind.isTerminal_renumber]

/-- The spans of renumbered candidates are the spans of the candidates, renumbered. -/
theorem ofCandidates_renumber (renumbered : Renumbered shift elements image)
    (tokens : List Token) :
    ∀ candidates, ofCandidates image tokens (Candidate.renumberAll shift candidates) =
      renumberAll shift (ofCandidates elements tokens candidates)
  | [] => rfl
  | candidate :: rest => by
    rw [Candidate.renumberAll, ofCandidates, ofCandidates, renumberAll,
      ofCandidate_renumber renumbered tokens candidate,
      ofCandidates_renumber renumbered tokens rest]

end

end MatchSpan

/-- The tree with the places of elements renumbered. -/
def ParseTree.renumber (shift : Nat → Nat) (tree : ParseTree) : ParseTree :=
  { tree with root := tree.root.renumber shift }

/-- The outcome with the places of elements in its tree renumbered. -/
def Outcome.renumber (shift : Nat → Nat) (outcome : Outcome) : Outcome :=
  { outcome with tree := outcome.tree.renumber shift }

/-- The tree around a renumbered span is the tree around the span, renumbered. -/
theorem ParseTree.ofRoot_renumber (shift : Nat → Nat) (root : MatchSpan) (tokens : List Token) :
    ofRoot (root.renumber shift) tokens = (ofRoot root tokens).renumber shift := by
  rw [ofRoot, ofRoot, root.renumber_isEmpty, root.renumber_start, root.renumber_stop]
  split
  · rfl
  · rfl

/-- Whether a grammar is another one with its elements renumbered. -/
structure Grammar.Counterpart (shift : Nat → Nat) (grammar image : Grammar) : Prop where
  /-- The elements are renumbered. -/
  elements : Renumbered shift grammar.elements image.elements
  /-- The root is brought to the root. -/
  root : image.root = shift grammar.root
  /-- Elements keep their actions. -/
  actions : ∀ id, image.action? (shift id) = grammar.action? id
  /-- Text is compared in the same way. -/
  case : image.case = grammar.case

namespace Grammar.Counterpart

variable {shift : Nat → Nat} {grammar image : Grammar}

/-- The roots are the same, renumbered, and in the same order. -/
theorem roots (counterpart : Counterpart shift grammar image) (options : MatchOptions)
    (tokens : List Token) :
    image.roots options tokens = (grammar.roots options tokens).map (Candidate.renumber shift) := by
  have same : Search.of image options tokens =
      { Search.of grammar options tokens with elements := image.elements } := by
    rw [Search.of, counterpart.case]
    rfl
  have renumbered : Renumbered shift (Search.of grammar options tokens).elements image.elements :=
    counterpart.elements
  have asked := Search.candidates_turns renumbered options.maxMemoEntries grammar.root
  have turned := Search.rootStep_turns (.of grammar options tokens) image.elements asked
    options.mode {}
  rw [Grammar.roots, Grammar.roots, same, counterpart.root]
  exact congrArg Prod.fst turned

/-- The trees are the same, renumbered, and in the same order. -/
theorem trees (counterpart : Counterpart shift grammar image) (options : MatchOptions)
    (tokens : List Token) :
    image.trees options tokens = (grammar.trees options tokens).map (ParseTree.renumber shift) := by
  rw [Grammar.trees, Grammar.trees, counterpart.roots, List.map_map, List.map_map]
  refine List.map_congr_left fun candidate _ => ?_
  rw [Function.comp, Function.comp, MatchSpan.ofCandidate_renumber counterpart.elements,
    ParseTree.ofRoot_renumber]

mutual

/-- What a span contributes stays. -/
theorem ofSpan (counterpart : Counterpart shift grammar image) :
    ∀ span : MatchSpan, Built.ofSpan image (span.renumber shift) = Built.ofSpan grammar span
  | ⟨element, name, start, stop, text, skipped, children⟩ => by
    have below := counterpart.ofSpans children
    rw [MatchSpan.renumber, Built.ofSpan, Built.ofSpan, below, counterpart.actions,
      counterpart.elements.getElem?_eq]
    cases grammar.elements[element]? with
    | none => rfl
    | some held =>
      obtain ⟨given, explicit, kind, nullable⟩ := held
      cases kind <;> rfl

/-- What spans contribute stays. -/
theorem ofSpans (counterpart : Counterpart shift grammar image) :
    ∀ spans : List MatchSpan,
      Built.ofSpans image (MatchSpan.renumberAll shift spans) = Built.ofSpans grammar spans
  | [] => rfl
  | span :: rest => by
    rw [MatchSpan.renumberAll, Built.ofSpans, Built.ofSpans, span.renumber_isEmpty,
      span.renumber_name, counterpart.ofSpan span, counterpart.ofSpans rest]

end

/-- The result of a tree stays. -/
theorem result (counterpart : Counterpart shift grammar image) (tree : ParseTree) :
    (tree.renumber shift).result image = tree.result grammar := by
  simp only [ParseTree.result, ParseTree.renumber, MatchSpan.renumber_isEmpty,
    MatchSpan.renumber_name, counterpart.ofSpan]

/-- The parses are the same, renumbered, and in the same order. -/
theorem parseAllTokens (counterpart : Counterpart shift grammar image) (options : MatchOptions)
    (tokenizer : Tokenizer) (tokens : List Token) :
    (Parser.mk image options tokenizer).parseAllTokens tokens =
      ((Parser.mk grammar options tokenizer).parseAllTokens tokens).map
        (Outcome.renumber shift) := by
  have outcomes : ∀ trees : List ParseTree,
      (trees.map (ParseTree.renumber shift)).map (Outcome.ofTree image) =
        (trees.map (Outcome.ofTree grammar)).map (Outcome.renumber shift) := by
    intro trees
    rw [List.map_map, List.map_map]
    refine List.map_congr_left fun tree _ => ?_
    rw [Function.comp, Function.comp, Outcome.ofTree, counterpart.result]
    rfl
  simp only [Parser.parseAllTokens, counterpart.trees]
  cases options.maxParses with
  | none => exact outcomes _
  | some count =>
    simp only [← List.map_take]
    exact outcomes _

end Grammar.Counterpart

end Utterance

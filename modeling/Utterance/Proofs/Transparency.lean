import Utterance.Proofs.Mirror

/-!
# A filler is noise and nothing else

Putting a filler among tokens changes none of the parses but for the filler itself. Since the search
with it mirrors the search without it, there are as many parses, in the same order. Their spans are
those of before with their places moved (`MatchSpan.slide`), apart from the places that are skipped,
where the filler may be one more (`MatchSpan.bare`). A result is made of names, texts and the order
of spans that cover tokens, and none of these changes (`MatchSpan.Recasts.result`). The noise of a
tree is what its leaves leave over, so it is the noise of before, moved, and the filler.
-/
namespace Utterance

/-- Whether a leaf covers tokens, and a place does not divide them. -/
def Leaf.Together (place : Nat) (leaf : Leaf) : Prop :=
  leaf.start < leaf.stop ∧ ¬ (leaf.start < place ∧ place < leaf.stop)

namespace MatchSpan

mutual

/-- The span after a token has been put in at a place. -/
def slide (place : Nat) : MatchSpan → MatchSpan
  | ⟨element, name, start, stop, text, skipped, children⟩ =>
    { element
      name
      start := if start = stop then slidePosition place start else slideToken place start
      stop := slidePosition place stop
      text
      skipped := skipped.map (slideToken place)
      children := slideAll place children }

/-- The spans after a token has been put in at a place. -/
def slideAll (place : Nat) : List MatchSpan → List MatchSpan
  | [] => []
  | span :: rest => slide place span :: slideAll place rest

end

mutual

/-- The span without what is skipped in it and below. -/
def bare : MatchSpan → MatchSpan
  | ⟨element, name, start, stop, text, _, children⟩ =>
    { element, name, start, stop, text, skipped := [], children := bareAll children }

/-- The spans without what is skipped in them and below. -/
def bareAll : List MatchSpan → List MatchSpan
  | [] => []
  | span :: rest => bare span :: bareAll rest

end

/-- Spans slide each by itself. -/
theorem slideAll_eq_map (place : Nat) (spans : List MatchSpan) :
    slideAll place spans = spans.map (slide place) := by
  induction spans with
  | nil => rfl
  | cons span rest hypothesis => rw [slideAll, hypothesis, List.map_cons]

/-- Spans lose what is skipped each by itself. -/
theorem bareAll_eq_map (spans : List MatchSpan) : bareAll spans = spans.map bare := by
  induction spans with
  | nil => rfl
  | cons span rest hypothesis => rw [bareAll, hypothesis, List.map_cons]

/-- Whether a change of spans keeps their elements, names and texts and which of them are empty, and
changes the spans below in the same way. -/
structure Recasts (change : MatchSpan → MatchSpan) : Prop where
  /-- The element stays. -/
  element : ∀ span, (change span).element = span.element
  /-- The name stays. -/
  name : ∀ span, (change span).name = span.name
  /-- The text stays. -/
  text : ∀ span, (change span).text = span.text
  /-- A span is empty when it was. -/
  isEmpty : ∀ span, (change span).isEmpty = span.isEmpty
  /-- The spans below change in the same way. -/
  children : ∀ span, (change span).children = span.children.map change

/-- Leaving out what is skipped recasts a span. -/
theorem recasts_bare : Recasts bare := by
  refine ⟨?_, ?_, ?_, ?_, ?_⟩ <;> rintro ⟨element, name, start, stop, text, skipped, children⟩
  · rfl
  · rfl
  · rfl
  · rfl
  · exact bareAll_eq_map children

/-- Making room for a token recasts a span. -/
theorem recasts_slide (place : Nat) : Recasts (slide place) := by
  refine ⟨?_, ?_, ?_, ?_, ?_⟩ <;> rintro ⟨element, name, start, stop, text, skipped, children⟩
  · rfl
  · rfl
  · rfl
  · rw [Bool.eq_iff_iff]
    simp only [slide, isEmpty, beq_iff_eq]
    by_cases same : start = stop
    · simp [same]
    · rw [if_neg same]
      exact iff_of_false (slideToken_ne_slidePosition same) same
  · exact slideAll_eq_map place children

namespace Recasts

variable {change : MatchSpan → MatchSpan}

mutual

/-- What a span contributes stays. -/
theorem ofSpan (recasts : Recasts change) (grammar : Grammar) :
    ∀ span, Built.ofSpan grammar (change span) = Built.ofSpan grammar span
  | ⟨element, name, start, stop, text, skipped, children⟩ => by
    have below := recasts.ofSpans grammar children
    have kept := recasts.element ⟨element, name, start, stop, text, skipped, children⟩
    have named := recasts.name ⟨element, name, start, stop, text, skipped, children⟩
    have texts := recasts.text ⟨element, name, start, stop, text, skipped, children⟩
    have inside := recasts.children ⟨element, name, start, stop, text, skipped, children⟩
    cases image : change ⟨element, name, start, stop, text, skipped, children⟩ with
    | mk element' name' start' stop' text' skipped' children' =>
      simp only [image] at kept named texts inside
      subst kept named texts inside
      rw [Built.ofSpan, Built.ofSpan, below]

/-- What spans contribute stays. -/
theorem ofSpans (recasts : Recasts change) (grammar : Grammar) :
    ∀ spans, Built.ofSpans grammar (spans.map change) = Built.ofSpans grammar spans
  | [] => rfl
  | span :: rest => by
    rw [List.map_cons, Built.ofSpans, Built.ofSpans, recasts.isEmpty, recasts.name,
      recasts.ofSpan grammar span, recasts.ofSpans grammar rest]

end

mutual

/-- The leaves of a span are recast with it. -/
theorem leaves (recasts : Recasts change) :
    ∀ span : MatchSpan, (change span).leaves = span.leaves.map change
  | ⟨element, name, start, stop, some text, skipped, children⟩ => by
    have texts := recasts.text ⟨element, name, start, stop, some text, skipped, children⟩
    rw [MatchSpan.leaves, List.map_singleton]
    cases image : change ⟨element, name, start, stop, some text, skipped, children⟩ with
    | mk element' name' start' stop' text' skipped' children' =>
      simp only [image] at texts
      subst texts
      rw [MatchSpan.leaves]
  | ⟨element, name, start, stop, none, skipped, children⟩ => by
    have texts := recasts.text ⟨element, name, start, stop, none, skipped, children⟩
    have inside := recasts.children ⟨element, name, start, stop, none, skipped, children⟩
    rw [MatchSpan.leaves, ← recasts.leavesOfAll children]
    cases image : change ⟨element, name, start, stop, none, skipped, children⟩ with
    | mk element' name' start' stop' text' skipped' children' =>
      simp only [image] at texts inside
      subst texts inside
      rw [MatchSpan.leaves]

/-- The leaves of spans are recast with them. -/
theorem leavesOfAll (recasts : Recasts change) : ∀ spans : List MatchSpan,
    MatchSpan.leavesOfAll (spans.map change) = (MatchSpan.leavesOfAll spans).map change
  | [] => rfl
  | span :: rest => by
    rw [List.map_cons, MatchSpan.leavesOfAll, MatchSpan.leavesOfAll, List.map_append,
      recasts.leaves span, recasts.leavesOfAll rest]

end

/-- The result of a tree stays. -/
theorem result (recasts : Recasts change) (grammar : Grammar) (root : MatchSpan)
    (tokens others : List Token) :
    (ParseTree.ofRoot (change root) others).result grammar =
      (ParseTree.ofRoot root tokens).result grammar := by
  rw [ParseTree.result, ParseTree.result, ParseTree.ofRoot_root, ParseTree.ofRoot_root,
    recasts.isEmpty, recasts.name, recasts.ofSpan]

end Recasts

/-- A span covers the same places without what is skipped. -/
theorem coveredPlaces_bare (span : MatchSpan) : span.bare.coveredPlaces = span.coveredPlaces := by
  rw [coveredPlaces, recasts_bare.leaves, List.flatMap_map]
  refine List.flatMap_congr fun leaf _ => ?_
  cases leaf
  rfl

/-- A span covers the places that it covered, moved, if none of its leaves is divided. -/
theorem coveredPlaces_slide {place : Nat} {span : MatchSpan}
    (together : ∀ leaf ∈ span.covered, leaf.Together place) :
    (span.slide place).coveredPlaces = span.coveredPlaces.map (slideToken place) := by
  rw [coveredPlaces, (recasts_slide place).leaves, List.flatMap_map, coveredPlaces,
    List.map_flatMap]
  refine List.flatMap_congr fun leaf listed => ?_
  obtain ⟨filled, whole⟩ := together _ (List.mem_map_of_mem listed)
  rw [map_slideToken_places filled whole]
  cases leaf
  simp only [slide, if_neg (Nat.ne_of_lt filled)]

/-- The words of tokens that stay together stay. -/
theorem wordsBetween_insertIdx (tokens : List Token) (filler : Token) {place start stop : Nat}
    (filled : start < stop) (together : ¬ (start < place ∧ place < stop)) :
    wordsBetween (tokens.insertIdx place filler) (slideToken place start)
      (slidePosition place stop) = wordsBetween tokens start stop := by
  rw [wordsBetween, wordsBetween, slide_width filled together,
    window_insertIdx tokens filler filled together]

/-- Whether a candidate with a span has that span, moved, after a filler has been put in, but for
what is skipped. -/
def Moves (elements : List Element) (tokens : List Token) (filler : Token) (place : Nat)
    (span : MatchSpan) : Prop :=
  ∀ candidate, ofCandidate elements tokens candidate = span →
    (ofCandidate elements (tokens.insertIdx place filler) (candidate.slide place)).bare =
      (span.slide place).bare

section

variable {elements : List Element} {tokens : List Token} {filler : Token}
  {element place position start stop : Nat}

/-- The span of a terminal moves, if its tokens stay together. -/
theorem moves_ofTerminal (together : Leaf.Together place ⟨start, stop⟩) :
    (ofTerminal elements tokens element start stop).Moves elements tokens filler place := by
  rintro ⟨other, extent, children⟩ same
  obtain ⟨filled, whole⟩ := together
  simp only [ofCandidate, ofTerminal, MatchSpan.mk.injEq, ofCandidates_eq_map,
    List.map_eq_nil_iff] at same
  obtain ⟨rfl, -, rfl, rfl, direct, -, rfl⟩ := same
  have words := wordsBetween_insertIdx tokens filler filled whole
  have terminal : (elements[other]?.any (·.kind.isTerminal)) = true := by
    by_contra composed
    rw [if_neg composed] at direct
    exact absurd direct (by simp)
  simp only [Candidate.slide, Candidate.slideAll, ofCandidate, ofCandidates, ofTerminal, slide,
    slideAll, bare, bareAll, Extent.slide, if_neg (Nat.ne_of_lt filled), terminal, if_true, words]
  rfl

/-- The span of an element moves, if the spans of its children do. -/
theorem moves_around {spans : List MatchSpan}
    (below : ∀ span ∈ spans, span.Moves elements tokens filler place) :
    (around elements element position stop spans).Moves elements tokens filler place := by
  rintro ⟨other, extent, children⟩ same
  simp only [ofCandidate, around, MatchSpan.mk.injEq, ofCandidates_eq_map] at same
  obtain ⟨rfl, -, starts, rfl, composed, -, rfl⟩ := same
  have terminal : (elements[other]?.any (·.kind.isTerminal)) = false := by
    by_contra direct
    rw [if_pos (by simpa using direct)] at composed
    exact absurd composed (by simp)
  have inside : bareAll (ofCandidates elements (tokens.insertIdx place filler)
        (Candidate.slideAll place children)) =
      bareAll (slideAll place (children.map (ofCandidate elements tokens))) := by
    simp only [bareAll_eq_map, ofCandidates_eq_map, Candidate.slideAll_eq_map, slideAll_eq_map,
      List.map_map]
    exact List.map_congr_left fun child member => below _ (List.mem_map_of_mem member) child rfl
  simp only [Candidate.slide, ofCandidate, around, slide, bare, Extent.slide, terminal, ← starts,
    inside]
  rfl

end

end MatchSpan

section

variable {grammar : Grammar} {budget : SkipBudget} {options : MatchOptions} {tokens : List Token}
  {filler : Token} {element position place stop : Nat} {leaves : List Leaf}

/-- A filler divides none of the leaves of a match. -/
theorem Matches.together (grounded : Grounded grammar.case grammar.elements)
    (inert : Inert grammar tokens filler place)
    (matched : Matches grammar budget tokens element position leaves stop) :
    ∀ leaf ∈ leaves, leaf.Together place := by
  refine matched.forall_leaf grounded fun element kind start stop present covers => ?_
  exact ⟨(covers.bounds (grounded.admissible _ _ present)).1, inert.together present covers⟩

/-- The span of a derivation moves with its candidate, if none of its leaves is divided. -/
theorem Derivation.moves (grounded : Grounded grammar.case grammar.elements) (filler : Token)
    {span : MatchSpan}
    (derivation : Derivation grammar budget tokens element position span stop) :
    (∀ leaf ∈ span.covered, leaf.Together place) →
      span.Moves grammar.elements tokens filler place := by
  refine Derivation.induction (motive := fun _ _ span _ =>
    (∀ leaf ∈ span.covered, leaf.Together place) →
      span.Moves grammar.elements tokens filler place) grounded ?_ ?_ derivation
  · intro element position start stop together
    exact MatchSpan.moves_ofTerminal (together ⟨start, stop⟩ (by simp))
  · intro element elements position spans stop chained together
    refine MatchSpan.moves_around fun span listed => ?_
    refine chained.forall_mem (fun _ _ _ _ inside => inside.2) span listed fun leaf covered => ?_
    refine together leaf ?_
    rw [MatchSpan.covered_around, List.mem_flatten]
    exact ⟨_, List.mem_map_of_mem listed, covered⟩

/-- The tree of a root that slides has the noise of the tree of the root, moved, and the filler. -/
theorem Derivation.noise_slide (grounded : Grounded grammar.case grammar.elements)
    (inert : Inert grammar tokens filler place) {span image : MatchSpan} {start last : Nat}
    (derivation : Derivation grammar budget tokens element position span stop)
    (inside : position ≤ tokens.length)
    (derived : Derivation grammar budget (tokens.insertIdx place filler) element start image last)
    (within : start ≤ (tokens.insertIdx place filler).length)
    (same : image.bare = (span.slide place).bare) :
    (ParseTree.ofRoot image (tokens.insertIdx place filler)).noise =
      (place :: (ParseTree.ofRoot span tokens).noise.map (slideToken place)).mergeSort := by
  have together := (derivation.reads grounded).matched.together grounded inert
  have covered : image.coveredPlaces = span.coveredPlaces.map (slideToken place) := by
    rw [← MatchSpan.coveredPlaces_bare, same, MatchSpan.coveredPlaces_bare,
      MatchSpan.coveredPlaces_slide together]
  have before := derivation.accounts grounded inside
  have after := derived.accounts grounded within
  rw [List.length_insertIdx, if_pos inert.inside, covered] at after
  -- Leaves and noise with the filler are the filler and the leaves and noise without it.
  have all : (span.coveredPlaces.map (slideToken place) ++
      (ParseTree.ofRoot image (tokens.insertIdx place filler)).noise).Perm
        (span.coveredPlaces.map (slideToken place) ++
          place :: (ParseTree.ofRoot span tokens).noise.map (slideToken place)) := by
    refine after.trans ((MatchSpan.range_perm_slide inert.inside).trans ?_)
    refine ((before.map (slideToken place)).symm.cons place).trans ?_
    rw [List.map_append]
    exact List.perm_middle.symm
  have noise := (List.perm_append_left_iff _).1 all
  refine List.Perm.eq_of_pairwise' (ParseTree.pairwise_noise _)
    (List.pairwise_mergeSort' (· ≤ ·) _) (noise.trans (List.mergeSort_perm _ _).symm)

/-- Whether an outcome is another one after a filler has been put in at a place: the same result,
the same spans but for what is skipped, with their places moved, and the filler as noise. -/
structure Outcome.Undisturbed (place : Nat) (old new : Outcome) : Prop where
  /-- The result is the same. -/
  result : new.result = old.result
  /-- The spans are the same, moved, but for what is skipped. -/
  root : new.tree.root.bare = (old.tree.root.slide place).bare
  /-- The noise is the same, moved, and the filler. -/
  noise : new.tree.noise = (place :: old.tree.noise.map (slideToken place)).mergeSort

/-- The outcome of a root that slides is that of the root, undisturbed. -/
theorem Grammar.undisturbed_of_mem_roots (grounded : Grounded grammar.case grammar.elements)
    (inert : Inert grammar tokens filler place) (unlimited : options.skipBudget = .unlimited)
    (mode : options.mode = .first) {candidate : Candidate}
    (member : candidate ∈ grammar.roots options tokens) :
    Outcome.Undisturbed place
      (.ofTree grammar (.ofRoot (.ofCandidate grammar.elements tokens candidate) tokens))
      (.ofTree grammar (.ofRoot (.ofCandidate grammar.elements (tokens.insertIdx place filler)
        (candidate.slide place)) (tokens.insertIdx place filler))) := by
  have moved : candidate.slide place ∈ grammar.roots options (tokens.insertIdx place filler) := by
    rw [Grammar.roots_slide grounded inert unlimited mode]
    exact List.mem_map_of_mem member
  obtain ⟨position, inside, sound, -⟩ :=
    (Grammar.roots_rooted grounded options tokens).sound candidate member
  obtain ⟨start, within, image, -⟩ :=
    (Grammar.roots_rooted grounded options (tokens.insertIdx place filler)).sound _ moved
  have together := (sound.reads grounded).matched.together grounded inert
  have same := sound.derivation.moves grounded filler together candidate rfl
  refine ⟨?_, ?_, ?_⟩
  · rw [Outcome.ofTree, Outcome.ofTree,
      ← MatchSpan.recasts_bare.result grammar _ _ (tokens.insertIdx place filler), same,
      MatchSpan.recasts_bare.result grammar _ tokens,
      (MatchSpan.recasts_slide place).result grammar _ tokens]
  · rw [Outcome.ofTree, Outcome.ofTree, ParseTree.ofRoot_root, ParseTree.ofRoot_root]
    exact same
  · exact sound.derivation.noise_slide grounded inert (Nat.le_of_lt_succ (List.mem_range.1 inside))
      image.derivation (Nat.le_of_lt_succ (List.mem_range.1 within)) same

end

/-- A filler that is put in at a place among tokens, without dividing a phrase that a literal
matches, disturbs no parse if noise is not limited and the first parse comes first: there are as
many parses, in the same order, and each is the one it was, with the filler as noise. Neither the
order of choices nor the bounds on parses and on the memory matter. -/
theorem Parser.filler_is_noise {declaration : Declaration} {parser : Parser}
    (built : declaration.build = .ok parser.grammar)
    (unlimited : parser.options.skipBudget = .unlimited) (mode : parser.options.mode = .first)
    {tokens : List Token} {filler : Token} {place : Nat}
    (inert : Inert parser.grammar tokens filler place) :
    List.Forall₂ (Outcome.Undisturbed place) (parser.parseAllTokens tokens)
      (parser.parseAllTokens (tokens.insertIdx place filler)) := by
  have grounded := Declaration.grounded_of_build built
  have each := fun candidate (member : candidate ∈ parser.grammar.roots parser.options tokens) =>
    Grammar.undisturbed_of_mem_roots grounded inert unlimited mode member
  rw [Parser.parseAllTokens, Parser.parseAllTokens, Grammar.trees, Grammar.trees,
    Grammar.roots_slide grounded inert unlimited mode]
  cases parser.options.maxParses with
  | none =>
    simp only [List.forall₂_map_left_iff, List.forall₂_map_right_iff, List.forall₂_same]
    exact each
  | some count =>
    simp only [← List.map_take, List.forall₂_map_left_iff, List.forall₂_map_right_iff,
      List.forall₂_same]
    exact fun candidate member => each candidate (List.mem_of_mem_take member)

/-- Options that put later stops first and keep few solved pairs. -/
def fillerOptions : MatchOptions := { choiceOrder := .longest, maxMemoEntries := some 40 }

/-- A command with a filler before its last phrase has the parse that it has without, and the filler
is its only noise. -/
theorem Parser.hesitation_is_noise : ∃ grammar, lampDeclaration.build = .ok grammar ∧
    Inert grammar lampCommand ⟨"um", 4⟩ 2 ∧
    ∃ old new,
      (Parser.mk grammar fillerOptions .blanks).parseAllTokens lampCommand = [old] ∧
      (Parser.mk grammar fillerOptions .blanks).parseAllTokens
        (lampCommand.insertIdx 2 ⟨"um", 4⟩) = [new] ∧
      new.result = old.result ∧ old.tree.noise = [] ∧ new.tree.noise = [2] := by
  obtain ⟨grammar, built, read⟩ : ∃ grammar, lampDeclaration.build = .ok grammar ∧
      (decide (Inert grammar lampCommand ⟨"um", 4⟩ 2),
        ((Parser.mk grammar fillerOptions .blanks).parseAllTokens lampCommand).map
          (·.tree.noise)) = (true, [[]]) := exists_built (by decide +kernel)
  obtain ⟨noise, parses⟩ := Prod.mk.inj read
  have inert : Inert grammar lampCommand ⟨"um", 4⟩ 2 := of_decide_eq_true noise
  obtain ⟨old, single, quiet⟩ := List.map_eq_singleton_iff.1 parses
  have undisturbed := Parser.filler_is_noise
    (show lampDeclaration.build = .ok (Parser.mk grammar fillerOptions .blanks).grammar from built)
    rfl rfl inert
  rw [single] at undisturbed
  obtain ⟨new, others, same, none, listed⟩ := List.forall₂_cons_left_iff.1 undisturbed
  rw [List.forall₂_nil_left_iff.1 none] at listed
  refine ⟨grammar, built, inert, old, new, single, listed, same.result, quiet, ?_⟩
  rw [same.noise, quiet]
  decide +kernel

end Utterance

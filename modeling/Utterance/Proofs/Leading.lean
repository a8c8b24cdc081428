import Utterance.Proofs.Exhaustive
import Utterance.Proofs.Merging
import Utterance.Proofs.Transparency

/-!
# Noise in front

Foreign tokens in front of a sentence are noise and should change nothing but places. What they
never change is whether there is a parse, and which tokens the parses reach over
(`Grammar.roots_append_eq_nil_iff`, `Grammar.mem_extents_append_iff`): each root is the best match
between its start and its stop, and matches move back and forth. They may change which parse comes
first. Where the order of the roots stays, so does the result of the first one, since a result is
made of what is left of spans without their places (`MatchSpan.gist`). Together:
`Parser.noise_in_front_moves_parses`.
-/
namespace Utterance

/-- Leaves that move with their places, and cover as many tokens as before, have the extent of
before, moved. -/
theorem Leaf.extent_map (place : Nat → Nat) (move : Leaf → Leaf) {leaves : List Leaf}
    (starts : ∀ leaf, (move leaf).start = place leaf.start)
    (stops : ∀ leaf, (move leaf).stop = place leaf.stop)
    (widths : ∀ leaf ∈ leaves, (move leaf).width = leaf.width) (position : Nat) :
    extent (place position) (leaves.map move) =
      ⟨place (extent position leaves).start, place (extent position leaves).stop,
        (extent position leaves).consumed⟩ := by
  have first : start ∘ move = place ∘ start := funext starts
  have last : stop ∘ move = place ∘ stop := funext stops
  have consumed : (leaves.map move).map width = leaves.map width := by
    rw [List.map_map]
    exact List.map_congr_left widths
  rw [extent, consumed, List.head?_map, List.getLast?_map, Option.map_map, Option.map_map, first,
    last, ← Option.map_map, ← Option.map_map, Option.getD_map, Option.getD_map]
  rfl

/-- Leaves behind the tokens in front have the extent of the leaves without these. -/
theorem Leaf.extent_back {ahead : Nat} {leaves : List Leaf}
    (behind : ∀ leaf ∈ leaves, ahead ≤ leaf.start) (position : Nat) :
    extent (position - ahead) (leaves.map (back ahead)) = (extent position leaves).back ahead := by
  refine extent_map (· - ahead) (back ahead) (fun _ => rfl) (fun _ => rfl) ?_ position
  intro leaf listed
  have after := behind leaf listed
  show leaf.stop - ahead - (leaf.start - ahead) = leaf.stop - leaf.start
  omega

/-- Leaves that move behind tokens in front have an extent that moves with them. -/
theorem Leaf.extent_forth (ahead position : Nat) (leaves : List Leaf) :
    extent (ahead + position) (leaves.map (forth ahead)) =
      (extent position leaves).forth ahead :=
  extent_map (ahead + ·) (forth ahead) (fun _ => rfl) (fun _ => rfl)
    (fun leaf _ => Nat.add_sub_add_left ahead leaf.stop leaf.start) position

/-- Of extents with the same stop, one of which is behind tokens in front, each at least as good as
the other, one is the other moved. -/
theorem Extent.eq_forth {ahead : Nat} {far near : Extent} (behind : ahead ≤ far.start)
    (farFits : far.start + far.consumed ≤ far.stop)
    (nearFits : near.start + near.consumed ≤ near.stop) (level : far.stop = ahead + near.stop)
    (far_atLeast : far.AtLeast (near.forth ahead)) (near_atLeast : near.AtLeast (far.back ahead)) :
    far = near.forth ahead := by
  obtain ⟨start, stop, consumed⟩ := far
  obtain ⟨nearStart, nearStop, nearConsumed⟩ := near
  simp only [AtLeast, noise, forth, back] at *
  simp only [mk.injEq]
  omega

section

variable {grammar : Grammar} {options : MatchOptions} {fillers tokens : List Token}
  {candidate : Candidate}

/-- A root is a match from a position among the tokens and has the extent of its leaves. -/
theorem Grammar.exists_match (grounded : Grounded grammar.case grammar.elements)
    (member : candidate ∈ grammar.roots options tokens) :
    ∃ position ∈ List.range (tokens.length + 1), ∃ leaves,
      Matches grammar options.skipBudget tokens grammar.root position leaves candidate.stop ∧
        Leaf.extent position leaves = candidate.extent := by
  obtain ⟨position, listed, sound, -⟩ :=
    (roots_rooted grounded options tokens).sound candidate member
  exact ⟨position, listed, _, (sound.reads grounded).matched, (sound.extent_eq grounded).symm⟩

/-- What a root consumes fits between its start and its stop. -/
theorem Grammar.root_fits (grounded : Grounded grammar.case grammar.elements)
    (member : candidate ∈ grammar.roots options tokens) :
    candidate.extent.start + candidate.extent.consumed ≤ candidate.extent.stop := by
  obtain ⟨position, -, leaves, matched, same⟩ := exists_match grounded member
  rw [← same, (matched.ordered grounded).extent_stop]
  exact (matched.ordered grounded).bounds.2

/-- A root with tokens in front is a match without them, moved back. -/
theorem Grammar.exists_match_back (preceded : Preceded grammar fillers tokens)
    (member : candidate ∈ grammar.roots options (fillers ++ tokens)) :
    ∃ position ∈ List.range (tokens.length + 1), ∃ leaves,
      Matches grammar options.skipBudget tokens grammar.root position leaves
        (candidate.stop - fillers.length) ∧
        Leaf.extent position leaves = candidate.extent.back fillers.length := by
  have grounded := preceded.grounded
  obtain ⟨position, listed, leaves, matched, same⟩ := exists_match grounded member
  refine ⟨position - fillers.length, ?_, leaves.map (Leaf.back fillers.length),
    matched.back grounded preceded.foreign preceded.countable, ?_⟩
  · rw [List.mem_range, List.length_append] at listed
    rw [List.mem_range]
    omega
  · rw [← same]
    exact Leaf.extent_back (matched.length_le grounded preceded.foreign) position

/-- A root is a match with tokens in front, moved behind them. -/
theorem Grammar.exists_match_forth (preceded : Preceded grammar fillers tokens)
    (member : candidate ∈ grammar.roots options tokens) :
    ∃ position ∈ List.range ((fillers ++ tokens).length + 1), ∃ leaves,
      Matches grammar options.skipBudget (fillers ++ tokens) grammar.root position leaves
        (fillers.length + candidate.stop) ∧
        Leaf.extent position leaves = candidate.extent.forth fillers.length := by
  have grounded := preceded.grounded
  obtain ⟨position, listed, leaves, matched, same⟩ := exists_match grounded member
  refine ⟨fillers.length + position, ?_, leaves.map (Leaf.forth fillers.length),
    matched.forth grounded preceded.countable, ?_⟩
  · rw [List.mem_range] at listed
    rw [List.mem_range, List.length_append]
    omega
  · rw [← same]
    exact Leaf.extent_forth fillers.length position leaves

/-- A root with tokens in front that consumes some starts behind those. -/
theorem Grammar.length_le_root (preceded : Preceded grammar fillers tokens)
    (member : candidate ∈ grammar.roots options (fillers ++ tokens))
    (filled : candidate.extent.consumed ≠ 0) : fillers.length ≤ candidate.extent.start := by
  obtain ⟨position, -, leaves, matched, same⟩ := exists_match preceded.grounded member
  rw [← same] at filled ⊢
  cases leaves with
  | nil => exact absurd rfl filled
  | cons leaf rest =>
    exact matched.length_le preceded.grounded preceded.foreign leaf List.mem_cons_self

/-- With tokens in front there are roots when there are without. -/
theorem Grammar.roots_append_eq_nil_iff (preceded : Preceded grammar fillers tokens)
    (unlimited : options.maxMemoEntries = none) :
    grammar.roots options (fillers ++ tokens) = [] ↔ grammar.roots options tokens = [] := by
  have grounded := preceded.grounded
  have far := roots_rooted grounded options (fillers ++ tokens)
  have near := roots_rooted grounded options tokens
  simp only [List.eq_nil_iff_forall_not_mem]
  constructor
  · intro none candidate member
    obtain ⟨position, inside, leaves, matched, -⟩ := exists_match_forth preceded member
    obtain ⟨other, held, -⟩ := far.exists_atLeast grounded unlimited inside matched
    exact none other held
  · intro none candidate member
    obtain ⟨position, inside, leaves, matched, -⟩ := exists_match_back preceded member
    obtain ⟨other, held, -⟩ := near.exists_atLeast grounded unlimited inside matched
    exact none other held

/-- Roots with tokens in front and without them that stop at the same place reach over the same. -/
theorem Grammar.root_extent_eq_forth (preceded : Preceded grammar fillers tokens)
    (unlimited : options.maxMemoEntries = none) {far near : Candidate}
    (farHeld : far ∈ grammar.roots options (fillers ++ tokens))
    (nearHeld : near ∈ grammar.roots options tokens) (filled : far.extent.consumed ≠ 0)
    (level : far.stop = fillers.length + near.stop) :
    far.extent = near.extent.forth fillers.length := by
  have grounded := preceded.grounded
  obtain ⟨position, inside, leaves, matched, same⟩ := exists_match_forth preceded nearHeld
  rw [← level] at matched
  have farBest := (roots_rooted grounded options (fillers ++ tokens)).atLeast grounded unlimited
    farHeld inside matched
  obtain ⟨start, within, others, again, moved⟩ := exists_match_back preceded farHeld
  rw [level, Nat.add_sub_cancel_left] at again
  have nearBest := (roots_rooted grounded options tokens).atLeast grounded unlimited nearHeld
    within again
  rw [same] at farBest
  rw [moved] at nearBest
  exact Extent.eq_forth (length_le_root preceded farHeld filled) (root_fits grounded farHeld)
    (root_fits grounded nearHeld) level farBest nearBest

/-- The roots that consume tokens reach, with tokens in front, over what they reach over without
them, moved behind these. -/
theorem Grammar.mem_extents_append_iff (preceded : Preceded grammar fillers tokens)
    (unlimited : options.maxMemoEntries = none) {extent : Extent} (filled : extent.consumed ≠ 0) :
    extent ∈ (grammar.roots options (fillers ++ tokens)).map Candidate.extent ↔
      ∃ candidate ∈ grammar.roots options tokens,
        extent = candidate.extent.forth fillers.length := by
  have grounded := preceded.grounded
  constructor
  · intro member
    obtain ⟨far, held, rfl⟩ := List.mem_map.1 member
    obtain ⟨position, inside, leaves, matched, same⟩ := exists_match_back preceded held
    have some : leaves ≠ [] := by
      rintro rfl
      exact filled (congrArg Extent.consumed same).symm
    obtain ⟨near, kept, level, -⟩ :=
      (roots_rooted grounded options tokens).complete unlimited _ inside _ _ some matched
    refine ⟨near, kept, root_extent_eq_forth preceded unlimited held kept filled ?_⟩
    have behind := length_le_root preceded held filled
    have fits := root_fits grounded held
    have stop : far.stop = far.extent.stop := rfl
    omega
  · rintro ⟨near, held, rfl⟩
    obtain ⟨position, inside, leaves, matched, same⟩ := exists_match_forth preceded held
    have some : leaves ≠ [] := by
      rintro rfl
      exact filled (congrArg Extent.consumed same).symm
    obtain ⟨far, kept, level, atLeast⟩ :=
      (roots_rooted grounded options (fillers ++ tokens)).complete unlimited _ inside _ _ some
        matched
    rw [same] at atLeast
    have shown : far.extent.consumed ≠ 0 := by
      have more : near.extent.consumed ≤ far.extent.consumed := atLeast.1
      change near.extent.consumed ≠ 0 at filled
      omega
    rw [← root_extent_eq_forth preceded unlimited kept held shown level]
    exact List.mem_map_of_mem kept

end

namespace MatchSpan

mutual

/-- The span with nothing left of its places but whether it is empty. -/
def gist : MatchSpan → MatchSpan
  | ⟨element, name, start, stop, text, _, children⟩ =>
    { element
      name
      start := 0
      stop := if start = stop then 0 else 1
      text
      skipped := []
      children := gistAll children }

/-- The spans with nothing left of their places but which of them are empty. -/
def gistAll : List MatchSpan → List MatchSpan
  | [] => []
  | span :: rest => gist span :: gistAll rest

end

/-- Spans lose their places each by itself. -/
theorem gistAll_eq_map (spans : List MatchSpan) : gistAll spans = spans.map gist := by
  induction spans with
  | nil => rfl
  | cons span rest hypothesis => rw [gistAll, hypothesis, List.map_cons]

/-- Leaving out places recasts a span. -/
theorem recasts_gist : Recasts gist := by
  refine ⟨?_, ?_, ?_, ?_, ?_⟩ <;> rintro ⟨element, name, start, stop, text, skipped, children⟩
  · rfl
  · rfl
  · rfl
  · by_cases same : start = stop
    · simp [gist, isEmpty, same]
    · simp [gist, isEmpty, same]
  · exact gistAll_eq_map children

section

variable {elements : List Element} {fillers tokens : List Token} {element position start stop : Nat}

/-- The words of tokens behind others are those of the tokens. -/
theorem wordsBetween_append (behind : fillers.length ≤ start) (stop : Nat) :
    wordsBetween (fillers ++ tokens) start stop =
      wordsBetween tokens (start - fillers.length) (stop - fillers.length) := by
  have width : stop - fillers.length - (start - fillers.length) = stop - start := by omega
  rw [wordsBetween, wordsBetween, width, List.drop_append, List.drop_of_length_le behind,
    List.nil_append]

/-- Whether a candidate with a span has, after it has moved back, a span that is the same but for
its places. -/
def Settles (elements : List Element) (fillers tokens : List Token) (span : MatchSpan) : Prop :=
  ∀ candidate, ofCandidate elements (fillers ++ tokens) candidate = span →
    (ofCandidate elements tokens (candidate.back fillers.length)).gist = span.gist

/-- The span of a terminal behind the tokens in front settles. -/
theorem settles_ofTerminal (behind : fillers.length ≤ start) (filled : start < stop) :
    (ofTerminal elements (fillers ++ tokens) element start stop).Settles elements fillers
      tokens := by
  rintro ⟨other, extent, children⟩ same
  simp only [ofCandidate, ofTerminal, MatchSpan.mk.injEq, ofCandidates_eq_map,
    List.map_eq_nil_iff] at same
  obtain ⟨rfl, -, rfl, rfl, direct, -, rfl⟩ := same
  have apart : extent.start - fillers.length ≠ extent.stop - fillers.length := by omega
  have terminal : (elements[other]?.any (·.kind.isTerminal)) = true := by
    by_contra composed
    rw [if_neg composed] at direct
    exact absurd direct (by simp)
  simp only [Candidate.back, Candidate.backAll, ofCandidate, ofCandidates, ofTerminal, gist,
    gistAll, Extent.back, if_neg apart, if_neg (Nat.ne_of_lt filled), terminal, if_true]
  rw [← wordsBetween_append behind]
  rfl

/-- The span of an element settles if the spans of its children do and moving back keeps whether it
is empty. -/
theorem settles_around {spans : List MatchSpan}
    (still : firstStart position spans - fillers.length = stop - fillers.length ↔
      firstStart position spans = stop)
    (below : ∀ span ∈ spans, span.Settles elements fillers tokens) :
    (around elements element position stop spans).Settles elements fillers tokens := by
  rintro ⟨other, extent, children⟩ same
  simp only [ofCandidate, around, MatchSpan.mk.injEq, ofCandidates_eq_map] at same
  obtain ⟨rfl, -, starts, rfl, composed, -, rfl⟩ := same
  have terminal : (elements[other]?.any (·.kind.isTerminal)) = false := by
    by_contra direct
    rw [if_pos (by simpa using direct)] at composed
    exact absurd composed (by simp)
  have inside : gistAll (ofCandidates elements tokens (Candidate.backAll fillers.length children)) =
      gistAll (children.map (ofCandidate elements (fillers ++ tokens))) := by
    simp only [gistAll_eq_map, ofCandidates_eq_map, Candidate.backAll_eq_map, List.map_map]
    exact List.map_congr_left fun child member => below _ (List.mem_map_of_mem member) child rfl
  rw [← starts] at still
  simp only [Candidate.back, ofCandidate, around, gist, Extent.back, terminal, ← starts, inside,
    still]
  rfl

end

end MatchSpan

section

variable {grammar : Grammar} {budget : SkipBudget} {fillers tokens : List Token}
  {element position stop : Nat} {span : MatchSpan}

/-- The span of a derivation settles, if its leaves are behind the tokens in front. -/
theorem Derivation.settles (grounded : Grounded grammar.case grammar.elements)
    (derivation : Derivation grammar budget (fillers ++ tokens) element position span stop) :
    (∀ leaf ∈ span.covered, fillers.length ≤ leaf.start ∧ leaf.start < leaf.stop) →
      span.Settles grammar.elements fillers tokens := by
  refine Derivation.induction (motive := fun _ _ span _ =>
    (∀ leaf ∈ span.covered, fillers.length ≤ leaf.start ∧ leaf.start < leaf.stop) →
      span.Settles grammar.elements fillers tokens) grounded ?_ ?_ derivation
  · intro element position start stop behind
    obtain ⟨after, filled⟩ := behind ⟨start, stop⟩ (by simp)
    exact MatchSpan.settles_ofTerminal after filled
  · intro element elements position spans stop chained behind
    rw [MatchSpan.covered_around] at behind
    have reads : Chained (Reads grammar budget (fillers ++ tokens)) elements position spans stop :=
      chained.imp fun _ _ _ _ _ inside => inside.1.reads grounded
    have ordered : Leaf.Ordered position (spans.map MatchSpan.covered).flatten stop :=
      (reads.map MatchSpan.covered fun _ _ _ _ _ inside => inside.matched.ordered grounded).ordered
    have clear := ordered.clear fun leaf listed => (behind leaf listed).1
    refine MatchSpan.settles_around ?_ fun span listed => ?_
    · rw [reads.firstStart_eq grounded, ← ordered.extent_stop]
      unfold Extent.Clear at clear
      omega
    · refine chained.forall_mem (fun _ _ _ _ inside => inside.2) span listed fun leaf covered => ?_
      refine behind leaf ?_
      rw [List.mem_flatten]
      exact ⟨_, List.mem_map_of_mem listed, covered⟩

end

section

variable {grammar : Grammar} {options : MatchOptions} {fillers tokens : List Token}

/-- The tree of a root has, without the tokens in front, the result that it has with them. -/
theorem Grammar.result_back (preceded : Preceded grammar fillers tokens) {candidate : Candidate}
    (member : candidate ∈ grammar.roots options (fillers ++ tokens)) :
    (ParseTree.ofRoot (.ofCandidate grammar.elements tokens (candidate.back fillers.length))
        tokens).result grammar =
      (ParseTree.ofRoot (.ofCandidate grammar.elements (fillers ++ tokens) candidate)
        (fillers ++ tokens)).result grammar := by
  have grounded := preceded.grounded
  obtain ⟨position, -, sound, -⟩ :=
    (roots_rooted grounded options (fillers ++ tokens)).sound candidate member
  have matched := (sound.reads grounded).matched
  have same := sound.derivation.settles grounded (fun leaf listed =>
    ⟨matched.length_le grounded preceded.foreign leaf listed,
      ((matched.ordered grounded).forall_mem leaf listed).2.1⟩) candidate rfl
  rw [← MatchSpan.recasts_gist.result grammar _ tokens tokens, same,
    MatchSpan.recasts_gist.result grammar _ (fillers ++ tokens) tokens]

end

/-- Foreign tokens in front of a sentence never make a parse, and never prevent one. The parses that
consume tokens reach over what they reach over without these tokens, moved behind them. Which parse
comes first may change, since the tokens count as noise where the search starts with the first
token; but its result stays if no match that they put out of reach has a rival. -/
theorem Parser.noise_in_front_moves_parses {declaration : Declaration} {parser : Parser}
    (built : declaration.build = .ok parser.grammar) {count : Nat}
    (limited : parser.options.skipBudget = .limited count) (mode : parser.options.mode = .first)
    (asked : parser.options.maxParses ≠ some 0) (unlimited : parser.options.maxMemoEntries = none)
    {fillers tokens : List Token} (foreign : ∀ filler ∈ fillers, Foreign parser.grammar filler)
    (countable : fillers.length + tokens.length ≤ maxCount) :
    (parser.parseTokens (fillers ++ tokens) = none ↔ parser.parseTokens tokens = none) ∧
    (∀ extent : Extent, extent.consumed ≠ 0 →
      (extent ∈ (parser.grammar.roots parser.options (fillers ++ tokens)).map Candidate.extent ↔
        ∃ candidate ∈ parser.grammar.roots parser.options tokens,
          extent = candidate.extent.forth fillers.length)) ∧
    (parser.grammar.Unrivalled count fillers.length tokens →
      (parser.parseTokens (fillers ++ tokens)).map (·.result) =
        (parser.parseTokens tokens).map (·.result)) := by
  have preceded : Preceded parser.grammar fillers tokens :=
    ⟨Declaration.grounded_of_build built, foreign, countable⟩
  rw [parser.parseTokens_eq asked, parser.parseTokens_eq asked, Grammar.trees, Grammar.trees]
  refine ⟨?_, ?_, ?_⟩
  · simpa using Grammar.roots_append_eq_nil_iff preceded unlimited
  · exact fun extent filled => Grammar.mem_extents_append_iff preceded unlimited filled
  · intro unrivalled
    rw [← Grammar.roots_back built unlimited limited mode preceded unrivalled]
    cases roots : parser.grammar.roots parser.options (fillers ++ tokens) with
    | nil => rfl
    | cons first rest =>
      have member : first ∈ parser.grammar.roots parser.options (fillers ++ tokens) := by
        rw [roots]
        exact List.mem_cons_self
      exact congrArg Option.some (Grammar.result_back preceded member).symm

/-- Options that allow no noise. -/
def strictOptions : MatchOptions := { skipBudget := .limited 0 }

/-- Two words that are no part of a command. -/
def hesitation : List Token := Token.ofWords ["um", "er"]

/-- Behind two words that are no part of it a command has the result that it has without them,
though no noise is allowed. -/
theorem Parser.hesitation_moves_command : ∃ grammar, lampDeclaration.build = .ok grammar ∧
    (∀ filler ∈ hesitation, Foreign grammar filler) ∧
    ∃ old new,
      (Parser.mk grammar strictOptions .blanks).parseTokens lampCommand = some old ∧
      (Parser.mk grammar strictOptions .blanks).parseTokens (hesitation ++ lampCommand) =
        some new ∧
      new.tree.leadingNoise = [0, 1] ∧ new.result = old.result := by
  obtain ⟨grammar, built, read⟩ : ∃ grammar, lampDeclaration.build = .ok grammar ∧
      (decide (∀ filler ∈ hesitation, Foreign grammar filler),
        elementNullable grammar.elements grammar.root,
        ((Parser.mk grammar strictOptions .blanks).parseTokens
          (hesitation ++ lampCommand)).map (·.tree.leadingNoise)) = (true, false, some [0, 1]) :=
    exists_built (by decide +kernel)
  obtain ⟨strange, read⟩ := Prod.mk.inj read
  obtain ⟨filled, parsed⟩ := Prod.mk.inj read
  have foreign : ∀ filler ∈ hesitation, Foreign grammar filler := of_decide_eq_true strange
  obtain ⟨new, found, noise⟩ := Option.map_eq_some_iff.1 parsed
  obtain ⟨-, -, same⟩ := Parser.noise_in_front_moves_parses
    (show lampDeclaration.build = .ok (Parser.mk grammar strictOptions .blanks).grammar from built)
    (show strictOptions.skipBudget = .limited 0 from rfl) rfl
    (show strictOptions.maxParses ≠ some 0 by decide) rfl foreign
    (show hesitation.length + lampCommand.length ≤ maxCount by decide)
  have results := same
    (Grammar.unrivalled_of_strict (Declaration.grounded_of_build built) filled _ _)
  rw [found] at results
  obtain ⟨old, known, equal⟩ := Option.map_eq_some_iff.1 results.symm
  exact ⟨grammar, built, foreign, old, new, known, found, noise, equal.symm⟩

/-- A word that may be left out. -/
def wordDeclaration : Declaration where
  definitions := [⟨"GOAL", .optional (.literals ["a"])⟩]

/-- A foreign token in front hides the word: the search from it finds the empty match only, which
stays first. -/
theorem Parser.noise_in_front_hides_word : ∃ grammar, wordDeclaration.build = .ok grammar ∧
    (∀ filler ∈ Token.ofWords ["x"], Foreign grammar filler) ∧
    ((Parser.mk grammar strictOptions .blanks).parseTokens
        (Token.ofWords ["x"] ++ Token.ofWords ["a"])).map (·.result) ≠
      ((Parser.mk grammar strictOptions .blanks).parseTokens (Token.ofWords ["a"])).map
        (·.result) := by
  obtain ⟨grammar, built, read⟩ : ∃ grammar, wordDeclaration.build = .ok grammar ∧
      (decide (∀ filler ∈ Token.ofWords ["x"], Foreign grammar filler),
        ((Parser.mk grammar strictOptions .blanks).parseTokens
          (Token.ofWords ["x"] ++ Token.ofWords ["a"])).map (·.result.items.length),
        ((Parser.mk grammar strictOptions .blanks).parseTokens
          (Token.ofWords ["a"])).map (·.result.items.length)) = (true, some 0, some 1) :=
    exists_built (by decide +kernel)
  obtain ⟨strange, read⟩ := Prod.mk.inj read
  obtain ⟨hidden, shown⟩ := Prod.mk.inj read
  refine ⟨grammar, built, of_decide_eq_true strange, fun same => ?_⟩
  have lengths := congrArg (Option.map fun result => result.items.length) same
  rw [Option.map_map, Option.map_map] at lengths
  have equal := hidden.symm.trans (lengths.trans shown)
  exact absurd equal (by decide)

end Utterance

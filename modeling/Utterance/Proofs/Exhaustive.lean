import Mathlib.Data.List.Nodup
import Utterance.Parser
import Utterance.Proofs.Trees

/-!
# The search is exhaustive

Without a limit on memory the search gives, for each element and position, candidates that stop
exactly where matches stop (`Grammar.search_finds_every_stop`), and each of them is at least as good
as every match that stops there (`Grammar.search_keeps_the_best`): keeping one candidate for each
stop at every level loses nothing. When the widest root comes first, it is at least as good as every
match of the start symbol anywhere, so a command that can be read without noise is read without
noise.
-/
namespace Utterance

section

variable {grammar : Grammar} {budget : SkipBudget} {options : MatchOptions} {tokens : List Token}
  {limit : Option Nat} {element position stop : Nat} {leaves : List Leaf} {positions : List Nat}
  {found : List Candidate} {candidate : Candidate}

/-- Leaves in order consume nothing only if there are none. -/
theorem Leaf.Ordered.consumed_eq_zero_iff (ordered : Leaf.Ordered position leaves stop) :
    (Leaf.extent position leaves).consumed = 0 ↔ leaves = [] := by
  cases leaves with
  | nil => exact ⟨fun _ => rfl, fun _ => rfl⟩
  | cons leaf rest =>
    have filled := ordered.2.1
    have split : (Leaf.extent position (leaf :: rest)).consumed =
        leaf.stop - leaf.start + (Leaf.extent position rest).consumed := rfl
    simp only [reduceCtorEq, iff_false]
    omega

/-- A sound candidate is at least as good as an empty match anywhere. -/
theorem Candidate.Sound.atLeast_nil (grounded : Grounded grammar.case grammar.elements)
    (sound : candidate.Sound grammar budget tokens element position stop) (place : Nat) :
    candidate.extent.AtLeast (Leaf.extent place []) := by
  have ordered := sound.ordered grounded
  rw [sound.extent_eq grounded]
  refine ⟨Nat.zero_le _, fun nothing => ?_⟩
  have empty := ordered.consumed_eq_zero_iff.1 nothing.symm
  rw [empty, Leaf.extent_nil, Leaf.extent_nil]
  simp [Extent.noise]

/-- Solved answers stop where matches do. -/
theorem Solved.mem_stops_iff (grounded : Grounded grammar.case grammar.elements)
    (solved : Solved grammar budget tokens limit element position found)
    (unlimited : limit = none) (stop : Nat) :
    stop ∈ found.map Candidate.stop ↔
      ∃ leaves, Matches grammar budget tokens element position leaves stop := by
  rw [List.mem_map]
  constructor
  · rintro ⟨candidate, member, rfl⟩
    exact ⟨_, ((solved.sound candidate member).reads grounded).matched⟩
  · rintro ⟨leaves, matched⟩
    obtain ⟨candidate, member, same, -⟩ := solved.complete unlimited leaves stop matched
    exact ⟨candidate, member, same⟩

/-- A solved answer is at least as good as every match that stops where it does. -/
theorem Solved.atLeast (solved : Solved grammar budget tokens limit element position found)
    (unlimited : limit = none) (member : candidate ∈ found)
    (matched : Matches grammar budget tokens element position leaves candidate.stop) :
    candidate.extent.AtLeast (Leaf.extent position leaves) := by
  obtain ⟨better, inside, same, atLeast⟩ := solved.complete unlimited leaves _ matched
  rw [← List.inj_on_of_nodup_map solved.distinct inside member same]
  exact atLeast

/-- Roots stop where matches that are not empty do, and at the first token if there is an empty
match. -/
theorem Rooted.mem_stops_iff (grounded : Grounded grammar.case grammar.elements)
    (rooted : Rooted grammar budget tokens limit positions found) (unlimited : limit = none)
    (stop : Nat) :
    stop ∈ found.map Candidate.stop ↔
      (∃ position ∈ positions, ∃ leaves, leaves ≠ [] ∧
        Matches grammar budget tokens grammar.root position leaves stop) ∨
      (stop = 0 ∧ ∃ position ∈ positions,
        Matches grammar budget tokens grammar.root position [] position) := by
  rw [List.mem_map]
  constructor
  · rintro ⟨candidate, member, rfl⟩
    obtain ⟨position, listed, sound, still⟩ := rooted.sound candidate member
    have matched := (sound.reads grounded).matched
    by_cases empty : candidate.isEmpty = true
    · have same := (sound.isEmpty_iff_stop_eq grounded).1 empty
      have none := (sound.isEmpty_iff grounded).1 empty
      change Matches grammar budget tokens grammar.root position
        (candidate.leaves grammar tokens) candidate.stop at matched
      rw [none, same] at matched
      exact Or.inr ⟨same.trans (still empty), position, listed, matched⟩
    · exact Or.inl ⟨position, listed, candidate.leaves grammar tokens,
        fun none => empty ((sound.isEmpty_iff grounded).2 none), matched⟩
  · rintro (⟨position, listed, leaves, shown, matched⟩ | ⟨rfl, position, -, matched⟩)
    · obtain ⟨candidate, member, same, -⟩ :=
        rooted.complete unlimited position listed leaves stop shown matched
      exact ⟨candidate, member, same⟩
    · exact rooted.empty unlimited (matched.nullable grounded rfl)

/-- A root is at least as good as every match that stops where it does. -/
theorem Rooted.atLeast (grounded : Grounded grammar.case grammar.elements)
    (rooted : Rooted grammar budget tokens limit positions found) (unlimited : limit = none)
    (member : candidate ∈ found) (listed : position ∈ positions)
    (matched : Matches grammar budget tokens grammar.root position leaves candidate.stop) :
    candidate.extent.AtLeast (Leaf.extent position leaves) := by
  by_cases empty : leaves = []
  · obtain ⟨start, -, sound, -⟩ := rooted.sound candidate member
    rw [empty]
    exact sound.atLeast_nil grounded position
  · obtain ⟨better, inside, same, atLeast⟩ :=
      rooted.complete unlimited position listed leaves _ empty matched
    rw [← List.inj_on_of_nodup_map rooted.distinct inside member same]
    exact atLeast

/-- Where there is a match there is a root that is at least as good. -/
theorem Rooted.exists_atLeast (grounded : Grounded grammar.case grammar.elements)
    (rooted : Rooted grammar budget tokens limit positions found) (unlimited : limit = none)
    (listed : position ∈ positions)
    (matched : Matches grammar budget tokens grammar.root position leaves stop) :
    ∃ candidate ∈ found, candidate.extent.AtLeast (Leaf.extent position leaves) := by
  by_cases empty : leaves = []
  · obtain ⟨candidate, member, -⟩ := rooted.empty unlimited (matched.nullable grounded empty)
    obtain ⟨start, -, sound, -⟩ := rooted.sound candidate member
    rw [empty]
    exact ⟨candidate, member, sound.atLeast_nil grounded position⟩
  · obtain ⟨candidate, member, -, atLeast⟩ :=
      rooted.complete unlimited position listed leaves stop empty matched
    exact ⟨candidate, member, atLeast⟩

/-- The first root is at least as good as every match, if the widest is to come first. -/
theorem Grammar.head?_roots_atLeast (grounded : Grounded grammar.case grammar.elements)
    (unlimited : options.maxMemoEntries = none) (widest : options.mode = .widest)
    (inside : position ≤ tokens.length)
    (matched : Matches grammar options.skipBudget tokens grammar.root position leaves stop) :
    ∃ first, (grammar.roots options tokens).head? = some first ∧
      first.extent.AtLeast (Leaf.extent position leaves) := by
  have rooted := Grammar.roots_rooted grounded options tokens
  have sorted := Grammar.roots_pairwise grounded tokens widest
  obtain ⟨candidate, member, atLeast⟩ := rooted.exists_atLeast grounded unlimited
    (List.mem_range.2 (Nat.lt_succ_of_le inside)) matched
  cases roots : grammar.roots options tokens with
  | nil =>
    rw [roots] at member
    exact absurd member (by simp)
  | cons first rest =>
    rw [roots] at member sorted
    refine ⟨first, rfl, ?_⟩
    rcases List.mem_cons.1 member with rfl | later
    · exact atLeast
    · exact (List.rel_of_pairwise_cons sorted later).trans atLeast

/-- The preferred parse is the first tree, unless no parses are asked for. -/
theorem Parser.parseTokens_eq (parser : Parser) (asked : parser.options.maxParses ≠ some 0)
    (tokens : List Token) : parser.parseTokens tokens =
      (parser.grammar.trees parser.options tokens).head?.map (Outcome.ofTree parser.grammar) := by
  rw [parseTokens, parseAllTokens, List.head?_map]
  cases bound : parser.options.maxParses with
  | none => rfl
  | some count =>
    have some : count ≠ 0 := fun none => asked (by rw [bound, none])
    simp [List.head?_take, some]

/-- Where a match consumes all tokens, the first of the widest trees does, and it has no noise. -/
theorem Grammar.head?_trees_of_whole (grounded : Grounded grammar.case grammar.elements)
    (unlimited : options.maxMemoEntries = none) (widest : options.mode = .widest)
    (inside : position ≤ tokens.length)
    (matched : Matches grammar options.skipBudget tokens grammar.root position leaves stop)
    (whole : (Leaf.extent position leaves).consumed = tokens.length) :
    ∃ tree, (grammar.trees options tokens).head? = some tree ∧
      tree.root.consumed = tokens.length ∧ tree.noise = [] := by
  obtain ⟨first, head, atLeast⟩ :=
    Grammar.head?_roots_atLeast grounded unlimited widest inside matched
  obtain ⟨start, within, sound, -⟩ := (Grammar.roots_rooted grounded options tokens).sound first
    (List.mem_of_mem_head? head)
  have before : start ≤ tokens.length := Nat.le_of_lt_succ (List.mem_range.1 within)
  have lengths := (sound.derivation.accounts grounded before).length_eq
  rw [List.length_append, MatchSpan.length_coveredPlaces, List.length_range, ← sound.counted]
    at lengths
  have enough : tokens.length ≤ first.consumed := by
    rw [← whole]
    exact atLeast.1
  refine ⟨.ofRoot (.ofCandidate grammar.elements tokens first) tokens, ?_, ?_, ?_⟩
  · rw [Grammar.trees, List.head?_map, head]
    rfl
  · rw [ParseTree.ofRoot_root, ← sound.counted]
    omega
  · exact List.eq_nil_of_length_eq_zero (by omega)

end

/-- Without a limit on memory, candidates of any element from any position stop exactly where its
matches stop, whatever was asked before; and roots stop exactly where matches of the start symbol
that are not empty stop, and at the first token if the start symbol has an empty match. -/
theorem Grammar.search_finds_every_stop {declaration : Declaration} {grammar : Grammar}
    (built : declaration.build = .ok grammar) {options : MatchOptions}
    (unlimited : options.maxMemoEntries = none) (tokens : List Token) :
    (∀ asked element position stop,
      stop ∈ ((Search.of grammar options tokens).candidatesAfter options.maxMemoEntries asked
          element position).map Candidate.stop ↔
        ∃ leaves, Matches grammar options.skipBudget tokens element position leaves stop) ∧
    ∀ stop, stop ∈ (grammar.roots options tokens).map Candidate.stop ↔
      (∃ position ≤ tokens.length, ∃ leaves, leaves ≠ [] ∧
        Matches grammar options.skipBudget tokens grammar.root position leaves stop) ∨
      (stop = 0 ∧ ∃ position ≤ tokens.length,
        Matches grammar options.skipBudget tokens grammar.root position [] position) := by
  have grounded := Declaration.grounded_of_build built
  constructor
  · intro asked element position stop
    exact (Search.candidatesAfter_solved grounded options tokens _ asked element
      position).mem_stops_iff grounded unlimited stop
  · intro stop
    have rooted := Grammar.roots_rooted grounded options tokens
    have stops := rooted.mem_stops_iff grounded unlimited stop
    simpa only [List.mem_range, Nat.lt_succ_iff] using stops

/-- The sentence has a match of the commands, since the search finds it. -/
theorem Grammar.lamp_stop_is_found : ∃ grammar, lampDeclaration.build = .ok grammar ∧
    6 ∈ (grammar.roots { skipBudget := .limited 1 } lampSentence).map Candidate.stop ∧
    ∃ position ≤ lampSentence.length, ∃ leaves, leaves ≠ [] ∧
      Matches grammar (.limited 1) lampSentence grammar.root position leaves 6 := by
  obtain ⟨grammar, built, stops⟩ : ∃ grammar, lampDeclaration.build = .ok grammar ∧
      (grammar.roots { skipBudget := .limited 1 } lampSentence).map Candidate.stop = [6] :=
    exists_built (by decide +kernel)
  have found : 6 ∈ (grammar.roots { skipBudget := .limited 1 } lampSentence).map
      Candidate.stop := by
    rw [stops]
    exact List.mem_singleton_self 6
  refine ⟨grammar, built, found, ?_⟩
  exact (((search_finds_every_stop built rfl lampSentence).2 6).1 found).resolve_right (by simp)

/-- Without a limit on memory, a candidate is at least as good as every match of its element from
its position that stops where it does, whatever was asked before; so is a root with regard to
matches of the start symbol from anywhere. If the widest root comes first, it is at least as good as
every match of the start symbol, and where one consumes all tokens the first tree does, has no noise
and is the preferred parse. -/
theorem Grammar.search_keeps_the_best {declaration : Declaration} {grammar : Grammar}
    (built : declaration.build = .ok grammar) {options : MatchOptions}
    (unlimited : options.maxMemoEntries = none) (tokens : List Token) :
    (∀ asked element position,
      ∀ candidate ∈ (Search.of grammar options tokens).candidatesAfter options.maxMemoEntries asked
        element position,
      candidate.extent = Leaf.extent position (candidate.leaves grammar tokens) ∧
      ∀ leaves, Matches grammar options.skipBudget tokens element position leaves candidate.stop →
        candidate.extent.AtLeast (Leaf.extent position leaves)) ∧
    (∀ root ∈ grammar.roots options tokens,
      (∃ position ≤ tokens.length,
        root.extent = Leaf.extent position (root.leaves grammar tokens)) ∧
      ∀ position ≤ tokens.length, ∀ leaves,
        Matches grammar options.skipBudget tokens grammar.root position leaves root.stop →
          root.extent.AtLeast (Leaf.extent position leaves)) ∧
    (options.mode = .widest → ∀ position ≤ tokens.length, ∀ leaves stop,
      Matches grammar options.skipBudget tokens grammar.root position leaves stop →
        (∃ first, (grammar.roots options tokens).head? = some first ∧
          first.extent.AtLeast (Leaf.extent position leaves)) ∧
        ((Leaf.extent position leaves).consumed = tokens.length →
          ∃ tree, (grammar.trees options tokens).head? = some tree ∧
            tree.root.consumed = tokens.length ∧ tree.noise = [] ∧
            (options.maxParses ≠ some 0 → ∀ tokenizer,
              (Parser.mk grammar options tokenizer).parseTokens tokens =
                some (.ofTree grammar tree)))) := by
  have grounded := Declaration.grounded_of_build built
  refine ⟨?_, ?_, ?_⟩
  · intro asked element position candidate member
    have solved := Search.candidatesAfter_solved grounded options tokens options.maxMemoEntries
      asked element position
    exact ⟨(solved.sound candidate member).extent_eq grounded,
      fun leaves matched => solved.atLeast unlimited member matched⟩
  · intro root member
    have rooted := Grammar.roots_rooted grounded options tokens
    obtain ⟨start, within, sound, -⟩ := rooted.sound root member
    refine ⟨⟨start, Nat.le_of_lt_succ (List.mem_range.1 within), sound.extent_eq grounded⟩, ?_⟩
    intro position inside leaves matched
    exact rooted.atLeast grounded unlimited member (List.mem_range.2 (Nat.lt_succ_of_le inside))
      matched
  · intro widest position inside leaves stop matched
    refine ⟨Grammar.head?_roots_atLeast grounded unlimited widest inside matched, fun whole => ?_⟩
    obtain ⟨tree, head, consumed, quiet⟩ :=
      Grammar.head?_trees_of_whole grounded unlimited widest inside matched whole
    refine ⟨tree, head, consumed, quiet, fun asked tokenizer => ?_⟩
    rw [Parser.parseTokens_eq _ asked, head]
    rfl

/-- A command without noise. -/
def lampCommand : List Token := Token.ofWords ["lamp", "please", "on", "now"]

/-- The widest parse of a command without noise has none. -/
theorem Grammar.lamp_command_has_no_noise : ∃ grammar, lampDeclaration.build = .ok grammar ∧
    ∃ outcome,
      (Parser.mk grammar { mode := .widest } .blanks).parseTokens lampCommand = some outcome ∧
        outcome.tree.root.consumed = 4 ∧ outcome.tree.noise = [] := by
  obtain ⟨grammar, built, consumed⟩ : ∃ grammar, lampDeclaration.build = .ok grammar ∧
      (grammar.trees {} lampCommand).map (·.root.consumed) = [4] :=
    exists_built (by decide +kernel)
  obtain ⟨tree, member, four⟩ := List.mem_map.1
    (show 4 ∈ (grammar.trees {} lampCommand).map (·.root.consumed) by simp [consumed])
  have grounded := Declaration.grounded_of_build built
  obtain ⟨span, position, inside, rfl, derivation⟩ :=
    Grammar.exists_derivation_of_mem_trees grounded member
  have matched := (derivation.reads grounded).matched
  rw [ParseTree.ofRoot_root, MatchSpan.consumed_eq _ position] at four
  obtain ⟨-, -, widest⟩ := search_keeps_the_best built
    (show ({ mode := .widest } : MatchOptions).maxMemoEntries = none from rfl) lampCommand
  obtain ⟨first, -, consumed, quiet, parses⟩ := (widest rfl position inside _ _ matched).2 four
  exact ⟨grammar, built, .ofTree grammar first, parses (by simp) .blanks, consumed, quiet⟩

end Utterance

import Mathlib.Data.List.Perm.Subperm
import Utterance.Proofs.Exhaustive

/-!
# A larger skip budget

A larger budget ends no search for a terminal earlier (`SkipBudget.AtMost.searchLimit_le`), so every
match under the smaller one is a match (`Matches.relax`). The greedy choices of the search all
change with the budget, but what it keeps for a stop is at least as good as every match that stops
there, whichever budget it works with. A root under the smaller budget is therefore matched or
outdone under the larger one (`Grammar.larger_budget_never_hurts`).
-/
namespace Utterance

/-- Whether a budget allows no more noise than another. -/
def SkipBudget.AtMost : (smaller larger : SkipBudget) → Prop
  | _, .unlimited => True
  | .unlimited, .limited _ => False
  | .limited count, .limited more => count ≤ more

/-- A larger budget ends no search for a terminal earlier. -/
theorem SkipBudget.AtMost.searchLimit_le {smaller larger : SkipBudget}
    (atMost : smaller.AtMost larger) (position length : Nat) :
    smaller.searchLimit position length ≤ larger.searchLimit position length := by
  cases smaller with
  | unlimited =>
    cases larger with
    | unlimited => exact Nat.le_refl _
    | limited more => exact atMost.elim
  | limited count =>
    cases larger with
    | unlimited => exact Nat.min_le_right _ _
    | limited more =>
      have less : count ≤ more := atMost
      simp only [searchLimit]
      omega

/-- A match is one under a larger budget as well. -/
theorem Matches.relax {grammar : Grammar} (grounded : Grounded grammar.case grammar.elements)
    {smaller larger : SkipBudget} (atMost : smaller.AtMost larger) {tokens : List Token}
    {element position stop : Nat} {leaves : List Leaf}
    (matched : Matches grammar smaller tokens element position leaves stop) :
    Matches grammar larger tokens element position leaves stop := by
  refine Matches.induction (motive := Matches grammar larger tokens) grounded ?_ ?_ ?_ ?_ ?_ ?_
    matched
  · intro element position start stop kind present after near covers
    have reach := atMost.searchLimit_le position tokens.length
    exact .terminal present after (Nat.lt_of_lt_of_le near reach) covers
  · intro element position stop children parts present chained
    exact .sequence present chained
  · intro element position child stop children leaves present member inside
    exact .choice present member inside
  · intro element position inner stop leaves present inside
    exact .optional present inside
  · intro element position inner present
    exact .omitted present
  · intro element position inner min count stop max parts present enough few chained
    exact .repetition present enough few chained

section

variable {grammar : Grammar} {smaller larger : SkipBudget} {tokens : List Token}
  {positions : List Nat} {found more : List Candidate}

/-- Roots under a larger budget stop wherever roots under a smaller one do. -/
theorem Rooted.stops_subset_of_atMost (grounded : Grounded grammar.case grammar.elements)
    (atMost : smaller.AtMost larger) {limit : Option Nat}
    (before : Rooted grammar smaller tokens limit positions found)
    (after : Rooted grammar larger tokens none positions more) :
    found.map Candidate.stop ⊆ more.map Candidate.stop := by
  intro stop listed
  obtain ⟨root, member, rfl⟩ := List.mem_map.1 listed
  obtain ⟨position, inside, sound, still⟩ := before.sound root member
  have matched := (sound.reads grounded).matched.relax grounded atMost
  by_cases empty : root.isEmpty = true
  · have first : root.stop = 0 :=
      ((sound.isEmpty_iff_stop_eq grounded).1 empty).trans (still empty)
    have marked := matched.nullable grounded ((sound.isEmpty_iff grounded).1 empty)
    obtain ⟨better, chosen, same⟩ := after.empty rfl marked
    exact List.mem_map.2 ⟨better, chosen, same.trans first.symm⟩
  · have shown : root.leaves grammar tokens ≠ [] := fun none =>
      empty ((sound.isEmpty_iff grounded).2 none)
    obtain ⟨better, chosen, same, -⟩ := after.complete rfl position inside _ _ shown matched
    exact List.mem_map.2 ⟨better, chosen, same⟩

/-- A root under a larger budget is at least as good as the root under a smaller one that stops
where it does. -/
theorem Rooted.atLeast_of_atMost (grounded : Grounded grammar.case grammar.elements)
    (atMost : smaller.AtMost larger) {limit : Option Nat}
    (before : Rooted grammar smaller tokens limit positions found)
    (after : Rooted grammar larger tokens none positions more) {root better : Candidate}
    (member : root ∈ found) (chosen : better ∈ more) (same : better.stop = root.stop) :
    better.extent.AtLeast root.extent := by
  obtain ⟨position, inside, sound, -⟩ := before.sound root member
  have matched := (sound.reads grounded).matched.relax grounded atMost
  rw [sound.extent_eq grounded]
  rw [← same] at matched
  exact after.atLeast grounded rfl chosen inside matched

end

/-- The first root under a smaller budget is followed by one under a larger budget, which consumes
no less if the widest is to come first. -/
theorem Grammar.head?_roots_of_atMost {grammar : Grammar}
    (grounded : Grounded grammar.case grammar.elements) {options : MatchOptions}
    (unlimited : options.maxMemoEntries = none) {larger : SkipBudget}
    (atMost : options.skipBudget.AtMost larger) {tokens : List Token} {root : Candidate}
    (head : (grammar.roots options tokens).head? = some root) :
    ∃ better, (grammar.roots { options with skipBudget := larger } tokens).head? = some better ∧
      (options.mode = .widest → root.consumed ≤ better.consumed) := by
  let relaxed : MatchOptions := { options with skipBudget := larger }
  have before := Grammar.roots_rooted grounded options tokens
  have after := Grammar.roots_rooted grounded relaxed tokens
  have member := List.mem_of_mem_head? head
  by_cases widest : options.mode = .widest
  · obtain ⟨position, inside, sound, -⟩ := before.sound root member
    have matched := (sound.reads grounded).matched.relax grounded atMost
    obtain ⟨better, first, atLeast⟩ := Grammar.head?_roots_atLeast grounded
      (show relaxed.maxMemoEntries = none from unlimited) widest
      (Nat.le_of_lt_succ (List.mem_range.1 inside)) matched
    have counted := congrArg Extent.consumed (sound.extent_eq grounded)
    exact ⟨better, first, fun _ => counted.le.trans atLeast.1⟩
  · rw [show relaxed.maxMemoEntries = none from unlimited] at after
    have listed := before.stops_subset_of_atMost grounded atMost after
      (List.mem_map_of_mem member)
    cases roots : grammar.roots relaxed tokens with
    | nil => simp [roots] at listed
    | cons better rest => exact ⟨better, rfl, fun asked => absurd asked widest⟩

/-- The span of a root consumes what the root does. -/
theorem Grammar.consumed_of_mem_roots {grammar : Grammar}
    (grounded : Grounded grammar.case grammar.elements) {options : MatchOptions}
    {tokens : List Token} {root : Candidate} (member : root ∈ grammar.roots options tokens) :
    (MatchSpan.ofCandidate grammar.elements tokens root).consumed = root.consumed := by
  obtain ⟨position, -, sound, -⟩ := (Grammar.roots_rooted grounded options tokens).sound root member
  exact sound.counted.symm

/-- The first parse is the one of the first root, unless no parses are asked for. -/
theorem Parser.parseTokens_eq_map_roots (parser : Parser)
    (asked : parser.options.maxParses ≠ some 0) (tokens : List Token) :
    parser.parseTokens tokens =
      (parser.grammar.roots parser.options tokens).head?.map fun root =>
        .ofTree parser.grammar
          (.ofRoot (.ofCandidate parser.grammar.elements tokens root) tokens) := by
  rw [parser.parseTokens_eq asked, Grammar.trees, List.head?_map, Option.map_map]
  rfl

/-- There are as many parses as roots, up to the number that is allowed. -/
theorem Parser.length_parseAllTokens (parser : Parser) (tokens : List Token) :
    (parser.parseAllTokens tokens).length =
      min (parser.options.maxParses.getD (parser.grammar.roots parser.options tokens).length)
        (parser.grammar.roots parser.options tokens).length := by
  rw [parseAllTokens]
  cases parser.options.maxParses with
  | none => simp [Grammar.trees]
  | some count => simp [Grammar.trees]

/-- Relaxing the skip budget never hurts. Without a limit on memory, every stop of a root is one
under a larger budget, where the root with that stop consumes at least as many tokens and, if as
many, has no more noise inside. There are at least as many parses; where there is a first parse
there still is one, and if the widest comes first it consumes no fewer tokens. -/
theorem Grammar.larger_budget_never_hurts {declaration : Declaration} {grammar : Grammar}
    (built : declaration.build = .ok grammar) {options : MatchOptions}
    (unlimited : options.maxMemoEntries = none) {larger : SkipBudget}
    (atMost : options.skipBudget.AtMost larger) (tokens : List Token) :
    (∀ root ∈ grammar.roots options tokens,
      root.stop ∈ (grammar.roots { options with skipBudget := larger } tokens).map Candidate.stop ∧
      ∀ better ∈ grammar.roots { options with skipBudget := larger } tokens,
        better.stop = root.stop → root.consumed ≤ better.consumed ∧
          (root.consumed = better.consumed → better.extent.noise ≤ root.extent.noise)) ∧
    ∀ tokenizer,
      ((Parser.mk grammar options tokenizer).parseAllTokens tokens).length ≤
        ((Parser.mk grammar { options with skipBudget := larger } tokenizer).parseAllTokens
          tokens).length ∧
      ∀ outcome, (Parser.mk grammar options tokenizer).parseTokens tokens = some outcome →
        ∃ better, (Parser.mk grammar { options with skipBudget := larger } tokenizer).parseTokens
            tokens = some better ∧
          (options.mode = .widest →
            outcome.tree.root.consumed ≤ better.tree.root.consumed) := by
  have grounded := Declaration.grounded_of_build built
  let relaxed : MatchOptions := { options with skipBudget := larger }
  have before := Grammar.roots_rooted grounded options tokens
  have after : Rooted grammar larger tokens none (List.range (tokens.length + 1))
      (grammar.roots relaxed tokens) := by
    have rooted := Grammar.roots_rooted grounded relaxed tokens
    rwa [show relaxed.maxMemoEntries = none from unlimited] at rooted
  have stops := before.stops_subset_of_atMost grounded atMost after
  refine ⟨fun root member => ⟨stops (List.mem_map_of_mem member), fun better chosen same =>
    before.atLeast_of_atMost grounded atMost after member chosen same⟩, fun tokenizer => ⟨?_, ?_⟩⟩
  · have fewer := (List.subperm_of_subset before.distinct stops).length_le
    rw [List.length_map, List.length_map] at fewer
    have bounded : ∀ few many : Nat, few ≤ many →
        min (options.maxParses.getD few) few ≤ min (options.maxParses.getD many) many := by
      intro few many le
      cases options.maxParses with
      | none => simpa using le
      | some count =>
        simp only [Option.getD_some]
        omega
    rw [Parser.length_parseAllTokens, Parser.length_parseAllTokens]
    exact bounded _ _ fewer
  · intro outcome parsed
    have asked : options.maxParses ≠ some 0 := by
      intro none
      simp [Parser.parseTokens, Parser.parseAllTokens, none] at parsed
    rw [Parser.parseTokens_eq_map_roots _ asked] at parsed
    obtain ⟨root, head, rfl⟩ := Option.map_eq_some_iff.1 parsed
    obtain ⟨better, first, further⟩ :=
      Grammar.head?_roots_of_atMost grounded unlimited atMost head
    refine ⟨.ofTree grammar (.ofRoot (.ofCandidate grammar.elements tokens better) tokens), ?_,
      fun widest => ?_⟩
    · rw [Parser.parseTokens_eq_map_roots ⟨grammar, relaxed, tokenizer⟩ asked, first]
      rfl
    · have less := Grammar.consumed_of_mem_roots grounded (List.mem_of_mem_head? head)
      have more := Grammar.consumed_of_mem_roots grounded (List.mem_of_mem_head? first)
      simp only [Outcome.ofTree, ParseTree.ofRoot_root, less, more]
      exact further widest

/-- A command that is said twice, the second time with a polite word. -/
def lampAgain : List Token := Token.ofWords ["lamp", "on", "now", "please", "on", "now"]

/-- Without noise the first command is found, and no less is consumed once noise may be skipped. -/
theorem Grammar.lamp_larger_budget_consumes_no_less :
    ∃ grammar, lampDeclaration.build = .ok grammar ∧ ∃ outcome better,
      (Parser.mk grammar { skipBudget := .limited 0, mode := .widest } .words).parseTokens
        lampAgain = some outcome ∧ outcome.tree.root.consumed = 3 ∧
      (Parser.mk grammar { skipBudget := .unlimited, mode := .widest } .words).parseTokens
        lampAgain = some better ∧ 3 ≤ better.tree.root.consumed := by
  obtain ⟨grammar, built, three⟩ : ∃ grammar, lampDeclaration.build = .ok grammar ∧
      ((Parser.mk grammar { skipBudget := .limited 0, mode := .widest } .words).parseTokens
        lampAgain).map (·.tree.root.consumed) = some 3 := exists_built (by decide +kernel)
  obtain ⟨outcome, parsed, consumed⟩ := Option.map_eq_some_iff.1 three
  obtain ⟨-, parses⟩ := larger_budget_never_hurts built
    (show ({ skipBudget := .limited 0, mode := .widest } : MatchOptions).maxMemoEntries = none
      from rfl)
    (show (SkipBudget.limited 0).AtMost .unlimited from trivial) lampAgain
  obtain ⟨better, again, further⟩ := (parses .words).2 outcome parsed
  exact ⟨grammar, built, outcome, better, parsed, consumed, again, consumed ▸ further rfl⟩

end Utterance

import Mathlib.Data.List.Chain
import Mathlib.Data.List.Sort
import Utterance.Proofs.Accounts
import Utterance.Proofs.Building
import Utterance.Proofs.Roots

/-!
# Every tree is a derivation that accounts for all tokens

Whatever the options are, also where a limit on memory cuts the search short, every tree of a
grammar that was built is a derivation of the start symbol, with the words of the input as the texts
of its leaves (`Grammar.trees_are_derivations`), and each token is in one of its leaves or noise
(`Grammar.trees_account_for_tokens`). Under a limit on noise no two leaves that follow each other
are further apart than the limit: each terminal is searched for from where the one before stops.
-/
namespace Utterance

namespace Leaf

/-- Whether each leaf starts within reach of where the one before stops, the first within reach of a
position. -/
def Near (budget : SkipBudget) (length : Nat) : (position : Nat) → (leaves : List Leaf) → Prop
  | _, [] => True
  | position, leaf :: rest =>
    leaf.start < budget.searchLimit position length ∧ Near budget length leaf.stop rest

variable {budget : SkipBudget} {length position middle stop : Nat} {leaves left right : List Leaf}

/-- Leaves that are near one another, and others that are near from where they stop. -/
theorem Near.append (ordered : Ordered position left middle)
    (first : Near budget length position left) (second : Near budget length middle right) :
    Near budget length position (left ++ right) := by
  induction left generalizing position with
  | nil =>
    obtain rfl : middle = position := ordered
    exact second
  | cons leaf rest hypothesis => exact ⟨first.1, hypothesis ordered.2.2 first.2⟩

/-- Under a limit on noise, leaves that follow each other are no further apart than the limit. -/
theorem Near.isChain {count : Nat} (near : Near (.limited count) length position leaves)
    (ordered : Ordered position leaves stop) :
    leaves.IsChain fun left right =>
      left.stop ≤ right.start ∧ right.start - left.stop ≤ count := by
  induction leaves generalizing position with
  | nil => exact .nil
  | cons leaf rest hypothesis =>
    cases rest with
    | nil => exact .singleton leaf
    | cons next others =>
      refine .cons_cons ⟨ordered.2.2.1, ?_⟩ (hypothesis near.2 ordered.2.2)
      have reach := near.2.1
      rw [SkipBudget.searchLimit] at reach
      omega

/-- Each leaf of leaves in order covers a token, and stops no later than they do. -/
theorem Ordered.forall_mem (ordered : Ordered position leaves stop) :
    ∀ leaf ∈ leaves, position ≤ leaf.start ∧ leaf.start < leaf.stop ∧ leaf.stop ≤ stop := by
  induction leaves generalizing position with
  | nil => simp
  | cons first rest hypothesis =>
    intro leaf member
    rcases List.mem_cons.1 member with rfl | later
    · exact ⟨ordered.1, ordered.2.1, ordered.2.2.le_stop⟩
    · obtain ⟨after, filled, within⟩ := hypothesis ordered.2.2 leaf later
      have before := ordered.1
      have covers := ordered.2.1
      exact ⟨by omega, filled, within⟩

/-- Leaves in order do not overlap. -/
theorem Ordered.pairwise (ordered : Ordered position leaves stop) :
    leaves.Pairwise fun left right => left.stop ≤ right.start := by
  induction leaves generalizing position with
  | nil => exact .nil
  | cons first rest hypothesis =>
    refine .cons ?_ (hypothesis ordered.2.2)
    exact fun leaf later => (ordered.2.2.forall_mem leaf later).1

end Leaf

section

variable {grammar : Grammar} {options : MatchOptions} {budget : SkipBudget} {tokens : List Token}
  {element position stop : Nat}

/-- Parts that are in order and near one another are so together. -/
theorem Chained.near {elements : List Nat} {parts : List (List Leaf)}
    (chained : Chained (fun _ position part stop => Leaf.Ordered position part stop ∧
      Leaf.Near budget tokens.length position part) elements position parts stop) :
    Leaf.Near budget tokens.length position parts.flatten := by
  induction chained with
  | nil position => exact True.intro
  | cons first rest hypothesis => exact first.2.append first.1 hypothesis

/-- Each leaf of a match starts within reach of where the one before stops. -/
theorem Matches.near (grounded : Grounded grammar.case grammar.elements) {leaves : List Leaf}
    (matched : Matches grammar budget tokens element position leaves stop) :
    Leaf.Near budget tokens.length position leaves := by
  have both : Leaf.Ordered position leaves stop ∧
      Leaf.Near budget tokens.length position leaves := by
    refine Matches.induction (motive := fun _ position leaves stop =>
      Leaf.Ordered position leaves stop ∧ Leaf.Near budget tokens.length position leaves)
      grounded ?_ ?_ ?_ ?_ ?_ ?_ matched
    · intro element position start stop kind present after near covers
      exact ⟨⟨after, (covers.bounds (grounded.admissible _ _ present)).1, rfl⟩, near, True.intro⟩
    · intro element position stop children parts present chained
      exact ⟨(chained.imp fun _ _ _ _ _ inside => inside.1).ordered, chained.near⟩
    · intro element position child stop children leaves present member inside
      exact inside
    · intro element position inner stop leaves present inside
      exact inside
    · intro element position inner present
      exact ⟨rfl, True.intro⟩
    · intro element position inner min count stop max parts present enough few chained
      exact ⟨(chained.imp fun _ _ _ _ _ inside => inside.1).ordered, chained.near⟩
  exact both.2

namespace ParseTree

/-- A tree has the root it is made around. -/
@[simp] theorem ofRoot_root (root : MatchSpan) (tokens : List Token) :
    (ofRoot root tokens).root = root := by
  unfold ofRoot
  split <;> rfl

/-- A tree has the tokens it is made of. -/
@[simp] theorem ofRoot_tokens (root : MatchSpan) (tokens : List Token) :
    (ofRoot root tokens).tokens = tokens := by
  unfold ofRoot
  split <;> rfl

/-- The words of the leaves are those at the places that they cover. -/
theorem leafWords_eq (tree : ParseTree) :
    tree.leafWords =
      tree.root.coveredPlaces.filterMap fun place => tree.tokens[place]?.map (·.text) := by
  rw [leafWords, MatchSpan.coveredPlaces, List.filterMap_flatMap]
  simp only [filterMap_places]

/-- The noise of a tree is in order. -/
theorem pairwise_noise (tree : ParseTree) : tree.noise.Pairwise (· ≤ ·) :=
  List.pairwise_mergeSort' (· ≤ ·) _

end ParseTree

/-- The leaves of a derivation cover tokens that are there. -/
theorem Derivation.leaves_bounds (grounded : Grounded grammar.case grammar.elements)
    {span : MatchSpan}
    (derivation : Derivation grammar budget tokens element position span stop)
    (inside : position ≤ tokens.length) :
    ∀ leaf ∈ span.leaves, leaf.start < leaf.stop ∧ leaf.stop ≤ tokens.length := by
  intro leaf listed
  have matched := (derivation.reads grounded).matched
  have within := matched.stop_le grounded
  obtain ⟨-, filled, early⟩ :=
    (matched.ordered grounded).forall_mem _ (List.mem_map_of_mem listed)
  change leaf.stop ≤ stop at early
  exact ⟨filled, by omega⟩

/-- The noise of a tree around a derivation is in strict order. -/
theorem Derivation.noise_strict (grounded : Grounded grammar.case grammar.elements)
    {span : MatchSpan}
    (derivation : Derivation grammar budget tokens element position span stop)
    (inside : position ≤ tokens.length) :
    (ParseTree.ofRoot span tokens).noise.Pairwise (· < ·) := by
  have accounts := derivation.accounts grounded inside
  have distinct := (accounts.nodup_iff.2 List.nodup_range).of_append_right
  refine (ParseTree.pairwise_noise _).imp₂ ?_ distinct
  exact fun _ _ le ne => Nat.lt_of_le_of_ne le ne

/-- The words of leaves and noise of a tree around a derivation are the words of the tokens. -/
theorem Derivation.words_perm (grounded : Grounded grammar.case grammar.elements)
    {span : MatchSpan}
    (derivation : Derivation grammar budget tokens element position span stop)
    (inside : position ≤ tokens.length) :
    ((ParseTree.ofRoot span tokens).leafWords ++ (ParseTree.ofRoot span tokens).noiseWords).Perm
      (tokens.map (·.text)) := by
  rw [ParseTree.leafWords_eq, ParseTree.noiseWords, ← List.filterMap_append,
    ParseTree.ofRoot_root, ParseTree.ofRoot_tokens]
  refine ((derivation.accounts grounded inside).filterMap _).trans ?_
  have all := filterMap_places tokens 0 tokens.length
  rw [MatchSpan.places, Nat.sub_zero, ← List.range_eq_range', List.drop_zero,
    List.take_length] at all
  rw [all]

/-- A tree of a grammar is made around a derivation of its start symbol. -/
theorem Grammar.exists_derivation_of_mem_trees (grounded : Grounded grammar.case grammar.elements)
    {tree : ParseTree} (member : tree ∈ grammar.trees options tokens) :
    ∃ span position, position ≤ tokens.length ∧ tree = .ofRoot span tokens ∧
      Derivation grammar options.skipBudget tokens grammar.root position span span.stop := by
  obtain ⟨candidate, listed, rfl⟩ := List.mem_map.1 member
  obtain ⟨position, inside, sound, -⟩ :=
    (Grammar.roots_rooted grounded options tokens).sound candidate listed
  refine ⟨_, position, ?_, rfl, ?_⟩
  · rw [List.mem_range] at inside
    omega
  · rw [MatchSpan.ofCandidate_stop]
    exact sound.derivation

end

/-- Commands to a lamp: its name, up to three polite words, and what to do. -/
def lampDeclaration : Declaration where
  definitions := [
    ⟨"GOAL", .sequence [.rule "LAMP", .repetition (.optional (.literals ["please"])) 1 (some 3),
      .choice [.literals ["off"], .literals ["on now"]]]⟩,
    ⟨"LAMP", .literals ["lamp"]⟩]
  case := .sensitive

/-- A command with noise before it and inside. -/
def lampSentence : List Token := Token.ofWords ["so", "lamp", "please", "kindly", "on", "now"]

/-- Options under which the search of the command is cut short. -/
def lampOptions : MatchOptions := { skipBudget := .limited 1, maxMemoEntries := some 10 }

/-- The search finds the command before it is cut short. -/
theorem exists_lampGrammar : ∃ grammar, lampDeclaration.build = .ok grammar ∧
    (grammar.trees lampOptions lampSentence).map (fun tree =>
      (tree.root.consumed, tree.root.leaves.map fun leaf => (leaf.start, leaf.stop))) =
        [(4, [(1, 2), (2, 3), (4, 6)])] :=
  exists_built (by decide +kernel)

/-- Every tree of a grammar that was built is a derivation of its start symbol, whatever the options
are. The text of each leaf is the words of the tokens that it covers, and under a limit on noise no
leaf is further from the one before than the limit. -/
theorem Grammar.trees_are_derivations {declaration : Declaration} {grammar : Grammar}
    (built : declaration.build = .ok grammar) (options : MatchOptions) (tokens : List Token) :
    ∀ tree ∈ grammar.trees options tokens,
      (∃ position ≤ tokens.length,
        Derivation grammar options.skipBudget tokens grammar.root position tree.root
          tree.root.stop) ∧
      (∀ leaf ∈ tree.root.leaves, leaf.text =
        some (" ".intercalate (((tokens.drop leaf.start).take (leaf.stop - leaf.start)).map
          (·.text)))) ∧
      ∀ count, options.skipBudget = .limited count →
        tree.root.leaves.IsChain fun left right =>
          left.stop ≤ right.start ∧ right.start - left.stop ≤ count := by
  intro tree member
  have grounded := Declaration.grounded_of_build built
  obtain ⟨span, position, inside, rfl, derivation⟩ :=
    Grammar.exists_derivation_of_mem_trees grounded member
  rw [ParseTree.ofRoot_root]
  refine ⟨⟨position, inside, derivation⟩, derivation.leaf_text grounded, fun count limited => ?_⟩
  have matched := (derivation.reads grounded).matched
  have near := matched.near grounded
  rw [limited] at near
  exact (List.isChain_map _).1 (near.isChain (matched.ordered grounded))

/-- The tree of a command that was found before the search was cut short: the words of its last leaf
are those of two tokens, and the noise between its leaves is in none of their texts. -/
theorem Grammar.lamp_tree_is_derivation : ∃ grammar, lampDeclaration.build = .ok grammar ∧
    ∃ tree ∈ grammar.trees lampOptions lampSentence,
      (∃ position ≤ lampSentence.length,
        Derivation grammar lampOptions.skipBudget lampSentence grammar.root position tree.root
          tree.root.stop) ∧
      tree.root.leaves.map (·.text) = [some "lamp", some "please", some "on now"] ∧
      tree.root.leaves.IsChain fun left right =>
        left.stop ≤ right.start ∧ right.start - left.stop ≤ 1 := by
  obtain ⟨grammar, built, found⟩ := exists_lampGrammar
  obtain ⟨tree, trees, read⟩ := List.map_eq_singleton_iff.1 found
  have member : tree ∈ grammar.trees lampOptions lampSentence := by simp [trees]
  obtain ⟨derivation, texts, close⟩ :=
    trees_are_derivations built lampOptions lampSentence tree member
  refine ⟨grammar, built, tree, member, derivation, ?_, close 1 rfl⟩
  -- Each text is read from the tokens at the places of its leaf.
  have words : tree.root.leaves.map (·.text) =
      (tree.root.leaves.map fun leaf => (leaf.start, leaf.stop)).map fun place =>
        some (" ".intercalate (((lampSentence.drop place.1).take (place.2 - place.1)).map
          (·.text))) := by
    rw [List.map_map]
    exact List.map_congr_left texts
  rw [words, (Prod.mk.inj read).2]
  decide +kernel

/-- Every token is in exactly one leaf of a tree or in its noise: leaves cover tokens and follow one
another, noise is in strict order, each place is counted once, the words of leaves and noise are
those of the tokens, and what a root consumes is what its candidate was ranked by. -/
theorem Grammar.trees_account_for_tokens {declaration : Declaration} {grammar : Grammar}
    (built : declaration.build = .ok grammar) (options : MatchOptions) (tokens : List Token) :
    (∀ tree ∈ grammar.trees options tokens,
      (∀ leaf ∈ tree.root.leaves, leaf.start < leaf.stop ∧ leaf.stop ≤ tokens.length) ∧
      (tree.root.leaves.Pairwise fun left right => left.stop ≤ right.start) ∧
      tree.noise.Pairwise (· < ·) ∧ (∀ place ∈ tree.noise, place < tokens.length) ∧
      (∀ place < tokens.length,
        (tree.root.leaves.countP fun leaf => leaf.start ≤ place && place < leaf.stop) +
          tree.noise.count place = 1) ∧
      (tree.leafWords ++ tree.noiseWords).Perm (tokens.map (·.text)) ∧
      tree.root.consumed + tree.noise.length = tokens.length) ∧
    (grammar.trees options tokens).map (·.root.consumed) =
      (grammar.roots options tokens).map Candidate.consumed := by
  have grounded := Declaration.grounded_of_build built
  refine ⟨fun tree member => ?_, ?_⟩
  · obtain ⟨span, position, inside, rfl, derivation⟩ :=
      Grammar.exists_derivation_of_mem_trees grounded member
    have accounts := derivation.accounts grounded inside
    have ordered := (derivation.reads grounded).matched.ordered grounded
    rw [ParseTree.ofRoot_root]
    refine ⟨derivation.leaves_bounds grounded inside, List.pairwise_map.1 ordered.pairwise,
      derivation.noise_strict grounded inside, ?_, ?_, derivation.words_perm grounded inside, ?_⟩
    · intro place noisy
      exact List.mem_range.1 (accounts.mem_iff.1 (List.mem_append_right _ noisy))
    · intro place less
      have counted := accounts.count_eq place
      rw [List.count_append, MatchSpan.count_coveredPlaces,
        List.nodup_range.count, if_pos (List.mem_range.2 less)] at counted
      exact counted
    · have lengths := accounts.length_eq
      rw [List.length_append, MatchSpan.length_coveredPlaces, List.length_range] at lengths
      exact lengths
  · rw [Grammar.trees, List.map_map]
    refine List.map_congr_left fun candidate listed => ?_
    obtain ⟨position, -, sound, -⟩ :=
      (Grammar.roots_rooted grounded options tokens).sound candidate listed
    rw [Function.comp, ParseTree.ofRoot_root]
    exact sound.counted.symm

/-- The tree of a command leaves two of its six tokens as noise. -/
theorem Grammar.lamp_tree_accounts_for_tokens : ∃ grammar, lampDeclaration.build = .ok grammar ∧
    ∃ tree ∈ grammar.trees lampOptions lampSentence,
      tree.noise.Pairwise (· < ·) ∧ tree.noise.length = 2 ∧
      (tree.leafWords ++ tree.noiseWords).Perm (lampSentence.map (·.text)) := by
  obtain ⟨grammar, built, found⟩ := exists_lampGrammar
  obtain ⟨tree, trees, read⟩ := List.map_eq_singleton_iff.1 found
  have member : tree ∈ grammar.trees lampOptions lampSentence := by simp [trees]
  have four : tree.root.consumed = 4 := (Prod.mk.inj read).1
  obtain ⟨-, -, strict, -, -, words, lengths⟩ :=
    (trees_account_for_tokens built lampOptions lampSentence).1 tree member
  have six : lampSentence.length = 6 := rfl
  exact ⟨grammar, built, tree, member, strict, by omega, words⟩

end Utterance

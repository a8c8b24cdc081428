import Utterance.Proofs.Sound

/-!
# The step finds the best of all matches

An answer is solved when its candidates are sound and stop at different places, and when, in a
search that is never cut short, every match of the element has a candidate that stops where it does
and is at least as good. The step of an element passes this on from its children
(`Search.Answers.solved`): pruning to one candidate for each stop loses no stop and nothing better,
because joining keeps the order of preference.

Chains are followed in the same way (`Frontier`). For a repetition a match may have empty
occurrences, which the search never keeps: leaving them out changes neither leaves nor stop.
-/
namespace Utterance

section

variable (grammar : Grammar) (budget : SkipBudget) (tokens : List Token) (limit : Option Nat)

/-- Whether candidates answer for an element and a position: they are sound, stop at different
places, and without a limit none of the matches is better. -/
structure Solved (element position : Nat) (found : List Candidate) : Prop where
  /-- No two candidates stop at the same place. -/
  distinct : (found.map Candidate.stop).Nodup
  /-- Each candidate is a match. -/
  sound : ∀ candidate ∈ found,
    candidate.Sound grammar budget tokens element position candidate.stop
  /-- Each match has a candidate with its stop that is at least as good. -/
  complete : limit = none → ∀ leaves stop,
    Matches grammar budget tokens element position leaves stop →
    ∃ candidate ∈ found, candidate.stop = stop ∧
      candidate.extent.AtLeast (Leaf.extent position leaves)

/-- Whether chains answer for elements in order, among the matches with parts of some kind. -/
structure Frontier (counts : List Leaf → Prop) (elements : List Nat) (position : Nat)
    (chains : List Chain) : Prop where
  /-- Each chain holds matches of the elements. -/
  sound : ∀ chain ∈ chains, chain.Sound grammar budget tokens elements position
  /-- Each chain of matches has one with its stop that is at least as good. -/
  complete : limit = none → ∀ parts stop,
    Chained (Matches grammar budget tokens) elements position parts stop →
    (∀ part ∈ parts, counts part) →
    ∃ chain ∈ chains, chain.stop = stop ∧
      chain.extent.AtLeast (Leaf.extent position parts.flatten)

end

section

variable {grammar : Grammar} {budget : SkipBudget} {tokens : List Token} {limit : Option Nat}
  {element position : Nat} {elements : List Nat} {chains found : List Chain}
  {counts : List Leaf → Prop} {keep : Chain → Candidate → Bool}

/-- What a search that is cut short answers is solved. -/
theorem Solved.cut (limited : limit ≠ none) (element position : Nat) :
    Solved grammar budget tokens limit element position [] :=
  ⟨by simp, by simp, fun none => absurd none limited⟩

/-- An element that is not there has no matches. -/
theorem Solved.absent (missing : kindOf? grammar.elements element = none) (position : Nat) :
    Solved grammar budget tokens limit element position [] := by
  refine ⟨by simp, by simp, fun _ leaves stop matched => ?_⟩
  cases matched <;> exact absurd (missing.symm.trans ‹_›) (by simp)

/-- A chain that grew is a chain with one more sound candidate that was kept. -/
theorem Extended.exists_extend
    (extended : Extended (Solved grammar budget tokens limit element) keep chains found)
    {grown : Chain} (member : grown ∈ found) :
    ∃ chain ∈ chains, ∃ candidate : Candidate,
      candidate.Sound grammar budget tokens element chain.stop candidate.stop ∧
      keep chain candidate = true ∧ grown = chain.extend candidate := by
  obtain ⟨items, extensions, gathered⟩ := extended
  obtain ⟨chain, before, answers, solved, candidate, inside, kept, rfl⟩ :=
    extensions.origin grown (gathered.origin grown member)
  exact ⟨chain, before, candidate, solved.sound candidate inside, kept, rfl⟩

/-- The chain without matches answers for no elements. -/
theorem Frontier.empty (position : Nat) :
    Frontier grammar budget tokens limit counts [] position [.empty position] := by
  constructor
  · intro chain member
    rw [List.mem_singleton.1 member]
    exact .empty position
  · intro _ parts stop chained _
    cases chained
    exact ⟨.empty position, by simp, rfl, .refl _⟩

/-- Chains that grow by one element answer for one element more, if every match that counts is
kept. -/
theorem Frontier.extend (grounded : Grounded grammar.case grammar.elements)
    (frontier : Frontier grammar budget tokens limit counts elements position chains)
    (extended : Extended (Solved grammar budget tokens limit element) keep chains found)
    (passes : ∀ (chain : Chain) (candidate : Candidate) (part : List Leaf), counts part →
      Matches grammar budget tokens element chain.stop part candidate.stop →
      keep chain candidate = true) :
    Frontier grammar budget tokens limit counts (elements ++ [element]) position found := by
  constructor
  · intro grown member
    obtain ⟨chain, before, candidate, sound, -, rfl⟩ := extended.exists_extend member
    exact (frontier.sound chain before).extend grounded sound
  · intro unlimited parts stop chained counted
    obtain ⟨before, last, middle, rfl, earlier, final⟩ := chained.of_concat
    obtain ⟨chain, member, rfl, better⟩ := frontier.complete unlimited before middle earlier
      fun part inside => counted part (List.mem_append_left _ inside)
    obtain ⟨items, extensions, gathered⟩ := extended
    obtain ⟨answers, solved, used⟩ := extensions.complete chain member
    obtain ⟨candidate, inside, rfl, atLeast⟩ := solved.complete unlimited last stop final
    have kept := passes chain candidate last (counted last (by simp)) final
    obtain ⟨winner, chosen, level, further⟩ := gathered.best _ (used candidate inside kept)
    refine ⟨winner, chosen, level, further.trans ?_⟩
    have chainSound := frontier.sound chain member
    have candidateSound := solved.sound candidate inside
    rw [(chainSound.extend grounded candidateSound).extent_eq grounded, Chain.extend,
      List.map_append, List.flatten_append, List.flatten_append]
    rw [chainSound.extent_eq grounded] at better
    rw [candidateSound.extent_eq grounded] at atLeast
    have leftOrdered := chainSound.ordered grounded
    have rightOrdered := candidateSound.ordered grounded
    have formerLeft := (earlier.imp fun _ _ _ _ _ matched => matched.ordered grounded).ordered
    have formerRight := final.ordered grounded
    simpa using leftOrdered.atLeast_append rightOrdered formerLeft formerRight better atLeast

/-- Candidates gathered from sound ones are solved if every match has one that is as good. -/
theorem Solved.of_gathered {items answers : List Candidate}
    (gathered : Gathered Candidate.extent items answers)
    (sound : ∀ item ∈ items, item.Sound grammar budget tokens element position item.stop)
    (complete : limit = none → ∀ leaves stop,
      Matches grammar budget tokens element position leaves stop →
      ∃ item ∈ items, item.stop = stop ∧ item.extent.AtLeast (Leaf.extent position leaves)) :
    Solved grammar budget tokens limit element position answers := by
  refine ⟨gathered.distinct, fun item member => sound item (gathered.origin item member), ?_⟩
  intro unlimited leaves stop matched
  obtain ⟨item, member, rfl, atLeast⟩ := complete unlimited leaves stop matched
  obtain ⟨better, inside, level, further⟩ := gathered.best item member
  exact ⟨better, inside, level, further.trans atLeast⟩

/-- A terminal finds all tokens within reach that it covers. -/
theorem Solved.terminals (grounded : Grounded grammar.case grammar.elements) {kind : Kind}
    (present : kindOf? grammar.elements element = some kind) (direct : kind.isTerminal = true)
    (options : MatchOptions) (position : Nat) :
    Solved grammar options.skipBudget tokens limit element position
      ((Search.of grammar options tokens).terminals element kind position) := by
  have admissible := grounded.admissible _ _ present
  have within : ∀ start, start ∈ (Search.of grammar options tokens).starts position ↔
      position ≤ start ∧ start < options.skipBudget.searchLimit position tokens.length := by
    intro start
    rw [Search.starts, List.mem_range'_1, Search.of_length, Search.of_budget]
    omega
  refine .of_gathered (Gathered.nil.offerAll _) ?_ ?_
  · intro item member
    rw [List.nil_append, List.mem_flatMap] at member
    obtain ⟨start, near, listed⟩ := member
    obtain ⟨stop, ends, rfl⟩ := List.mem_map.1 listed
    obtain ⟨after, reach⟩ := (within start).1 near
    have covers := (Kind.mem_terminalEnds admissible options tokens start stop).1 ends
    have span := MatchSpan.ofCandidate_terminal present direct tokens start stop
    refine ⟨?_, ?_⟩
    · rw [span]
      exact .terminal present after reach covers
    · rw [span, MatchSpan.consumed_eq _ position, MatchSpan.covered_ofTerminal]
      simp [Candidate.terminal, Candidate.consumed, Leaf.extent, Leaf.width]
  · intro _ leaves stop matched
    obtain ⟨start, rfl, after, near, covers⟩ := matched.of_terminal present direct
    have ends := (Kind.mem_terminalEnds admissible options tokens start stop).2 covers
    refine ⟨.terminal element start stop, ?_, rfl, ?_⟩
    · rw [List.nil_append, List.mem_flatMap]
      exact ⟨start, (within start).2 ⟨after, near⟩, List.mem_map.2 ⟨stop, ends, rfl⟩⟩
    · simp [Candidate.terminal, Leaf.extent, Leaf.width, Extent.AtLeast, Extent.noise]

/-- Chains threaded through elements answer for them. -/
theorem Threaded.frontier (grounded : Grounded grammar.case grammar.elements)
    (threaded : Threaded (Solved grammar budget tokens limit) position elements chains) :
    Frontier grammar budget tokens limit (fun _ => True) elements position chains ∧
      (chains.map fun chain => chain.extent.stop).Nodup := by
  induction threaded with
  | nil => exact ⟨.empty position, by simp⟩
  | concat earlier extended hypothesis =>
    have distinct := extended
    obtain ⟨items, -, gathered⟩ := distinct
    exact ⟨hypothesis.1.extend grounded extended fun _ _ _ _ _ => rfl, gathered.distinct⟩

/-- Turning sound chains into candidates keeps where they stop. -/
theorem map_stop_toCandidate (grounded : Grounded grammar.case grammar.elements) (element : Nat)
    (sound : ∀ chain ∈ chains, ∃ elements, chain.Sound grammar budget tokens elements position) :
    (chains.map (Chain.toCandidate element position)).map Candidate.stop =
      chains.map fun chain => chain.extent.stop := by
  rw [List.map_map]
  refine List.map_congr_left fun chain member => ?_
  obtain ⟨elements, inside⟩ := sound chain member
  exact congrArg Extent.stop (inside.extent_toCandidate grounded element)

/-- A sequence finds the best of its matches. -/
theorem Solved.sequence (grounded : Grounded grammar.case grammar.elements) {children : List Nat}
    (present : kindOf? grammar.elements element = some (.sequence children))
    (threaded : Threaded (Solved grammar budget tokens limit) position children chains) :
    Solved grammar budget tokens limit element position
      (chains.map (Chain.toCandidate element position)) := by
  obtain ⟨frontier, distinct⟩ := threaded.frontier grounded
  refine ⟨?_, ?_, ?_⟩
  · rw [map_stop_toCandidate grounded element fun chain member => ⟨_, frontier.sound chain member⟩]
    exact distinct
  · intro candidate member
    obtain ⟨chain, inside, rfl⟩ := List.mem_map.1 member
    have sound := frontier.sound chain inside
    exact (sound.chained.sound_node grounded present rfl (.sequence present)).self grounded
  · intro unlimited leaves stop matched
    obtain ⟨parts, rfl, chained⟩ := matched.of_sequence present
    obtain ⟨chain, inside, rfl, atLeast⟩ := frontier.complete unlimited parts stop chained (by simp)
    have kept := (frontier.sound chain inside).extent_toCandidate grounded element
    refine ⟨_, List.mem_map_of_mem inside, congrArg Extent.stop kept, ?_⟩
    rw [kept]
    exact atLeast

/-- A choice finds the best of the matches of its alternatives. -/
theorem Solved.choice (grounded : Grounded grammar.case grammar.elements) {children : List Nat}
    {items answers : List Candidate}
    (present : kindOf? grammar.elements element = some (.choice children))
    (alternatives : Alternatives (Solved grammar budget tokens limit) element position children
      items)
    (gathered : Gathered Candidate.extent items answers) :
    Solved grammar budget tokens limit element position answers := by
  refine .of_gathered gathered ?_ ?_
  · intro item member
    obtain ⟨child, listed, found, solved, candidate, inside, rfl⟩ := alternatives.origin item member
    have made := (solved.sound candidate inside).around grounded present rfl fun _ derivation =>
      .choice present listed derivation
    exact made.self grounded
  · intro unlimited leaves stop matched
    obtain ⟨child, listed, inside⟩ := matched.of_choice present
    obtain ⟨found, solved, used⟩ := alternatives.complete child listed
    obtain ⟨candidate, member, rfl, atLeast⟩ := solved.complete unlimited leaves stop inside
    have same := (solved.sound candidate member).extent_node grounded element
    refine ⟨_, used candidate member, congrArg Extent.stop same, ?_⟩
    rw [same]
    exact atLeast

/-- A sound candidate that stops where its search starts is as good as the empty match. -/
theorem Candidate.Sound.extent_of_stop_eq (grounded : Grounded grammar.case grammar.elements)
    {candidate : Candidate}
    (sound : candidate.Sound grammar budget tokens element position position) :
    candidate.extent = Leaf.extent position [] := by
  rw [sound.extent_eq grounded, (sound.ordered grounded).stop_eq_iff.1 rfl]

section

variable {inner : Nat} {answers : List Candidate}

/-- Candidates of an optional element stop where those of its child do. -/
theorem Solved.map_stop_optional (grounded : Grounded grammar.case grammar.elements)
    (solved : Solved grammar budget tokens limit inner position answers) (element : Nat) :
    (answers.map fun candidate => Candidate.node element position [candidate]).map Candidate.stop =
      answers.map Candidate.stop := by
  rw [List.map_map]
  refine List.map_congr_left fun candidate member => ?_
  exact congrArg Extent.stop ((solved.sound candidate member).extent_node grounded element)

/-- Candidates of an optional element around those of its child are sound. -/
theorem Solved.sound_optional (grounded : Grounded grammar.case grammar.elements)
    (present : kindOf? grammar.elements element = some (.optional inner))
    (solved : Solved grammar budget tokens limit inner position answers) :
    ∀ item ∈ answers.map fun candidate => Candidate.node element position [candidate],
      item.Sound grammar budget tokens element position item.stop := by
  intro item member
  obtain ⟨candidate, inside, rfl⟩ := List.mem_map.1 member
  have made := (solved.sound candidate inside).around grounded present rfl fun _ derivation =>
    .optional present derivation
  exact made.self grounded

/-- Candidates of an optional element around those of its child are as good as its matches that are
matches of the child. -/
theorem Solved.complete_optional (grounded : Grounded grammar.case grammar.elements)
    (solved : Solved grammar budget tokens limit inner position answers) (unlimited : limit = none)
    {leaves : List Leaf} {stop : Nat}
    (matched : Matches grammar budget tokens inner position leaves stop) :
    ∃ item ∈ answers.map fun candidate => Candidate.node element position [candidate],
      item.stop = stop ∧ item.extent.AtLeast (Leaf.extent position leaves) := by
  obtain ⟨candidate, inside, rfl, atLeast⟩ := solved.complete unlimited leaves stop matched
  have same := (solved.sound candidate inside).extent_node grounded element
  refine ⟨_, List.mem_map_of_mem inside, congrArg Extent.stop same, ?_⟩
  rw [same]
  exact atLeast

/-- An optional element whose child has an empty match finds the best of its matches. -/
theorem Solved.taken (grounded : Grounded grammar.case grammar.elements)
    (present : kindOf? grammar.elements element = some (.optional inner))
    (solved : Solved grammar budget tokens limit inner position answers)
    (empty : ∃ candidate ∈ answers, (Candidate.node element position [candidate]).stop = position) :
    Solved grammar budget tokens limit element position
      (answers.map fun candidate => .node element position [candidate]) := by
  have sound := solved.sound_optional grounded present
  refine ⟨?_, sound, ?_⟩
  · rw [solved.map_stop_optional grounded]
    exact solved.distinct
  · intro unlimited leaves stop matched
    rcases matched.of_optional present with inside | ⟨rfl, rfl⟩
    · exact solved.complete_optional grounded unlimited inside
    · obtain ⟨candidate, member, still⟩ := empty
      have listed : Candidate.node element stop [candidate] ∈
          answers.map fun candidate => Candidate.node element stop [candidate] :=
        List.mem_map_of_mem member
      have hollow := sound _ listed
      rw [still] at hollow
      refine ⟨_, listed, still, ?_⟩
      rw [hollow.extent_of_stop_eq grounded]
      exact .refl _

/-- An optional element whose child has no empty match finds the best of its matches. -/
theorem Solved.omitted (grounded : Grounded grammar.case grammar.elements)
    (present : kindOf? grammar.elements element = some (.optional inner))
    (solved : Solved grammar budget tokens limit inner position answers)
    (filled : ∀ candidate ∈ answers,
      (Candidate.node element position [candidate]).stop ≠ position) :
    Solved grammar budget tokens limit element position
      ((answers.map fun candidate => .node element position [candidate]) ++
        [.node element position []]) := by
  have hollow : (Candidate.node element position []).Sound grammar budget tokens element position
      position :=
    (Chained.nil position).sound_node grounded present rfl fun _ => .omitted present
  refine ⟨?_, ?_, ?_⟩
  · rw [List.map_append, List.nodup_append]
    refine ⟨?_, by simp, ?_⟩
    · rw [solved.map_stop_optional grounded]
      exact solved.distinct
    · intro stop member other single
      obtain ⟨item, listed, rfl⟩ := List.mem_map.1 member
      obtain ⟨candidate, inside, rfl⟩ := List.mem_map.1 listed
      rw [List.mem_singleton.1 single]
      exact filled candidate inside
  · intro item member
    rcases List.mem_append.1 member with listed | last
    · exact solved.sound_optional grounded present item listed
    · rw [List.mem_singleton.1 last]
      exact hollow
  · intro unlimited leaves stop matched
    rcases matched.of_optional present with inside | ⟨rfl, rfl⟩
    · obtain ⟨item, listed, level⟩ := solved.complete_optional grounded unlimited inside
      exact ⟨item, List.mem_append_left _ listed, level⟩
    · refine ⟨_, List.mem_append_right _ (List.mem_singleton_self _), rfl, ?_⟩
      rw [hollow.extent_of_stop_eq grounded]
      exact .refl _

end

end

end Utterance

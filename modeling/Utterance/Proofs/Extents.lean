import Utterance.Proofs.Capacity
import Utterance.Proofs.EmptyMatches
import Utterance.Proofs.Spans

/-!
# Where matches lie among the tokens

A match and a chain each reckon where they start, where they stop and what they consume in a way of
their own. `Extent.Placed` says what these numbers have to do with one another and with the tokens;
it is what keeps a rank from going below zero and a place from lying outside the tokens. It holds of
everything that a search ever builds (`Grammar.everything_built_is_placed`): `Search.Reached` are
the memories that a search goes through, in the middle of a step too, `Search.Answered` are the
candidates that are given on the way, and `Search.Builds` are the chains that are made of them,
whether or not they are kept.
-/
namespace Utterance

/-- How an extent lies from a position on among tokens of some number. -/
structure Extent.Placed (position length : Nat) (extent : Extent) : Prop where
  /-- It does not start before the position. -/
  after : position ≤ extent.start
  /-- It does not run backwards. -/
  forward : extent.start ≤ extent.stop
  /-- It does not go beyond the tokens. -/
  inside : extent.stop ≤ length
  /-- What it consumes lies between its start and its stop, so its noise is what is left. -/
  fits : extent.start + extent.consumed ≤ extent.stop
  /-- It stops at the position only if it is empty. -/
  still_iff : extent.stop = position ↔ extent.start = extent.stop
  /-- It is empty only if it consumes nothing. -/
  empty_iff : extent.start = extent.stop ↔ extent.consumed = 0

/-- Leaves in order among the tokens have an extent that is placed. -/
theorem Leaf.Ordered.placed {position stop length : Nat} {leaves : List Leaf}
    (ordered : Leaf.Ordered position leaves stop) (inside : stop ≤ length) :
    (Leaf.extent position leaves).Placed position length := by
  have stops := ordered.extent_stop
  obtain ⟨after, fits⟩ := ordered.bounds
  have nothing := ordered.consumed_eq_zero_iff
  have empty : (Leaf.extent position leaves).start = stop ↔ leaves = [] := by
    constructor
    · intro same
      exact nothing.1 (by omega)
    · rintro rfl
      exact Eq.symm ordered
  refine ⟨after, ?_, ?_, ?_, ?_, ?_⟩
  · omega
  · omega
  · omega
  · rw [stops, empty]
    exact ordered.stop_eq_iff
  · rw [stops, empty, nothing]

section

variable {grammar : Grammar} {budget : SkipBudget} {tokens : List Token} {element position : Nat}
  {stop : Nat}

/-- A sound candidate is placed from its position on. -/
theorem Candidate.Sound.placed (grounded : Grounded grammar.case grammar.elements)
    {candidate : Candidate}
    (sound : candidate.Sound grammar budget tokens element position stop)
    (within : position ≤ tokens.length) : candidate.extent.Placed position tokens.length := by
  have last := (sound.reads grounded).matched.stop_le grounded
  rw [sound.extent_eq grounded]
  exact (sound.ordered grounded).placed (by omega)

/-- A sound chain is placed from its position on. -/
theorem Chain.Sound.placed (grounded : Grounded grammar.case grammar.elements)
    {elements : List Nat} {chain : Chain}
    (sound : chain.Sound grammar budget tokens elements position)
    (within : position ≤ tokens.length) : chain.extent.Placed position tokens.length := by
  have bounded := (sound.chained.leaves grounded).imp
    fun _ _ _ _ _ matched => Matches.stop_le grounded matched
  have last := bounded.stop_le
  rw [sound.extent_eq grounded]
  exact (sound.ordered grounded).placed (by omega)

/-- What holds of an item that stops within a bound holds of all items of a chain that does. -/
theorem Chained.forall_mem_of_stop_le {α : Type} {good : α → Prop} {elements : List Nat}
    {items : List α} {bound : Nat}
    (chained : Chained (fun _ position item stop => position ≤ stop ∧ (stop ≤ bound → good item))
      elements position items stop) (within : stop ≤ bound) :
    position ≤ bound ∧ ∀ item ∈ items, good item := by
  induction chained with
  | nil position => exact ⟨within, by simp⟩
  | cons first rest hypothesis =>
    obtain ⟨near, others⟩ := hypothesis within
    refine ⟨first.1.trans near, fun item member => ?_⟩
    rcases List.mem_cons.1 member with rfl | later
    · exact first.2 near
    · exact others item later

/-- Every span inside a derivation among the tokens lies among the tokens. -/
theorem Derivation.bounds_of_mem_postorder (grounded : Grounded grammar.case grammar.elements)
    {span : MatchSpan} (derivation : Derivation grammar budget tokens element position span stop)
    (within : position ≤ tokens.length) :
    ∀ inner ∈ span.postorder, inner.start ≤ inner.stop ∧ inner.stop ≤ tokens.length := by
  have forward : ∀ inner ∈ span.postorder, inner.start ≤ inner.stop := by
    intro inner member
    obtain ⟨origin, inside⟩ := derivation.of_mem_postorder grounded inner member
    exact ((inside.reads grounded).isEmpty_iff grounded).1
  have early : stop ≤ tokens.length → ∀ inner ∈ span.postorder, inner.stop ≤ tokens.length := by
    refine Derivation.induction (motive := fun _ _ span stop => stop ≤ tokens.length →
      ∀ inner ∈ span.postorder, inner.stop ≤ tokens.length) grounded ?_ ?_ derivation
    · intro element position start stop last inner member
      obtain rfl := List.mem_singleton.1 member
      exact last
    · intro element elements position spans stop chained last inner member
      rw [MatchSpan.postorder_around, List.mem_append, List.mem_flatMap,
        List.mem_singleton] at member
      rcases member with ⟨child, listed, inside⟩ | rfl
      · have steps := chained.imp fun _ _ _ _ _ both => And.intro (both.1.le_stop grounded) both.2
        exact (steps.forall_mem_of_stop_le last).2 child listed inner inside
      · exact last
  have last := (derivation.reads grounded).matched.stop_le grounded
  exact fun inner member => ⟨forward inner member, early (by omega) inner member⟩

end

namespace Search

section

variable (search : Search) (limit : Option Nat)

/-- The memories that a search goes through, whatever it is asked. -/
inductive Reached : Memo → Prop where
  /-- It starts with an empty memory. -/
  | start : Reached {}
  /-- Any element may be asked for from any position, and its children followed to any depth. -/
  | ask {memo : Memo} (earlier : Reached memo) (depth element position : Nat) :
      Reached ((search.solve limit depth element position).run memo).2

/-- What may be answered for an element and a position at some point of a search. -/
def Answered : Answer := fun element position found =>
  ∃ memo depth, search.Reached limit memo ∧
    ((search.solve limit depth element position).run memo).1 = found

/-- The chains through elements that a search may build from a position, whether it keeps them or
not: a chain grows by every candidate that is answered for the next element where the chain
stops. -/
inductive Builds (position : Nat) : List Nat → Chain → Prop where
  /-- The chain without matches. -/
  | empty : Builds position [] (.empty position)
  /-- A chain with one more candidate. -/
  | extend {elements : List Nat} {element : Nat} {chain : Chain} {found : List Candidate}
      {candidate : Candidate} (earlier : Builds position elements chain)
      (answered : search.Answered limit element chain.stop found) (member : candidate ∈ found) :
      Builds position (elements ++ [element]) (chain.extend candidate)

/-- Whether the candidates of a sequence or a repetition are made of chains that were built. -/
structure Pieced (element position : Nat) (found : List Candidate) : Prop where
  /-- Candidates of a sequence are made of chains through its children. -/
  sequence : ∀ children, kindOf? search.elements element = some (.sequence children) →
    ∀ candidate ∈ found, ∃ chain, search.Builds limit position children chain ∧
      candidate = chain.toCandidate element position
  /-- Candidates of a repetition are made of chains through its child, some number of times. -/
  repetition : ∀ inner min max, kindOf? search.elements element = some (.repetition inner min max) →
    ∀ candidate ∈ found, ∃ count chain,
      search.Builds limit position (List.replicate count inner) chain ∧
        candidate = chain.toCandidate element position

end

variable {search : Search} {limit : Option Nat} {element position : Nat}

/-- No candidates are made of anything. -/
theorem Pieced.nil (search : Search) (limit : Option Nat) (element position : Nat) :
    search.Pieced limit element position [] := ⟨by simp, by simp⟩

/-- Chains grown from chains that were built are built. -/
theorem builds_of_extended {elements : List Nat} {keep : Chain → Candidate → Bool}
    {chains found : List Chain}
    (extended : Extended (search.Answered limit element) keep chains found)
    (earlier : ∀ chain ∈ chains, search.Builds limit position elements chain) :
    ∀ chain ∈ found, search.Builds limit position (elements ++ [element]) chain := by
  intro grown member
  obtain ⟨items, extensions, gathered⟩ := extended
  obtain ⟨chain, before, answers, answered, candidate, inside, -, rfl⟩ :=
    extensions.origin grown (gathered.origin grown member)
  exact (earlier chain before).extend answered inside

/-- Chains threaded through elements are built. -/
theorem builds_of_threaded {elements : List Nat} {chains : List Chain}
    (threaded : Threaded (search.Answered limit) position elements chains) :
    ∀ chain ∈ chains, search.Builds limit position elements chain := by
  induction threaded with
  | nil =>
    intro chain single
    rw [List.mem_singleton.1 single]
    exact .empty
  | concat earlier extended hypothesis => exact builds_of_extended extended hypothesis

/-- Chains on stacked levels are built, on each level with one number of occurrences. -/
theorem builds_of_stacked {inner least : Nat} {most : Option Nat} {levels : List (List Chain)}
    (stacked : Stacked (search.Answered limit inner) position least most levels) :
    ∀ level ∈ levels, ∃ count, ∀ chain ∈ level,
      search.Builds limit position (List.replicate count inner) chain := by
  induction stacked with
  | base =>
    intro level single
    rw [List.mem_singleton.1 single]
    refine ⟨0, fun chain only => ?_⟩
    rw [List.mem_singleton.1 only]
    exact .empty
  | push earlier few extended filled hypothesis =>
    intro level member
    rcases List.mem_cons.1 member with rfl | below
    · obtain ⟨count, built⟩ := hypothesis _ List.mem_cons_self
      refine ⟨count + 1, ?_⟩
      rw [List.replicate_succ']
      exact builds_of_extended extended built
    · exact hypothesis level below

/-- What a step makes of answers is made of chains that were built. -/
theorem Answers.pieced {found : List Candidate}
    (answers : search.Answers (search.Answered limit) element position found) :
    search.Pieced limit element position found := by
  constructor
  · intro children present candidate member
    cases answers with
    | absent missing => simp at member
    | sequence listed threaded =>
      obtain rfl := Kind.sequence.inj (Option.some.inj (listed.symm.trans present))
      obtain ⟨chain, inside, rfl⟩ := List.mem_map.1 member
      exact ⟨chain, builds_of_threaded threaded chain inside, rfl⟩
    | terminal other direct =>
      obtain rfl := Option.some.inj (other.symm.trans present)
      exact absurd direct (by simp [Kind.isTerminal])
    | choice other | taken other | omitted other | repetition other =>
      exact absurd (other.symm.trans present) (by simp)
  · -- Whichever level a chain is taken from, it was built there.
    intro inner min max present candidate member
    cases answers with
    | absent missing => simp at member
    | repetition listed minimum stacked finished gathered =>
      obtain ⟨rfl, -, -⟩ := Kind.repetition.inj (Option.some.inj (listed.symm.trans present))
      obtain ⟨chain, inside, rfl⟩ := List.mem_map.1 member
      obtain ⟨level, high, on⟩ := List.mem_flatten.1 (gathered.origin chain inside)
      obtain ⟨count, built⟩ := builds_of_stacked stacked level (List.mem_of_mem_take high)
      exact ⟨count, chain, built chain on, rfl⟩
    | terminal other direct =>
      obtain rfl := Option.some.inj (other.symm.trans present)
      exact absurd direct (by simp [Kind.isTerminal])
    | choice other | taken other | omitted other | sequence other =>
      exact absurd (other.symm.trans present) (by simp)

/-- An answer after earlier questions is one that is given on the way. -/
theorem answered_candidatesAfter (search : Search) (limit : Option Nat) (asked : List (Nat × Nat))
    (element position : Nat) :
    search.Answered limit element position
      (search.candidatesAfter limit asked element position) := by
  have general : ∀ memo : Memo, search.Reached limit memo → search.Reached limit (asked.foldl
      (fun memo pair => ((search.candidates limit pair.1 pair.2).run memo).2) memo) := by
    induction asked with
    | nil => exact fun memo reached => reached
    | cons pair rest hypothesis => exact fun memo reached => hypothesis _ (reached.ask _ _ _)
  exact ⟨_, _, general {} .start, rfl⟩

end Search

section

variable {grammar : Grammar} {options : MatchOptions} {tokens : List Token} {limit : Option Nat}
  {element position : Nat} {found : List Candidate}

/-- From every memory on the way, what is answered at any depth is sound with different stops, and
made of chains that were built. A search that is not deep enough answers nothing, as does one that
is cut short. -/
theorem Search.solve_yields_pieced (grounded : Grounded grammar.case grammar.elements)
    (options : MatchOptions) (tokens : List Token) (limit : Option Nat) (depth : Nat) :
    let search := Search.of grammar options tokens
    let held := fun element position found =>
      Solved grammar options.skipBudget tokens (some 0) element position found ∧
        search.Pieced limit element position found
    ∀ element position, Yields (fun memo => search.Reached limit memo ∧ memo.Holds held)
      (held element position) (search.solve limit depth element position) := by
  intro search held
  have nothing : ∀ element position, held element position [] := fun element position =>
    ⟨.cut (by simp) element position, .nil search limit element position⟩
  induction depth with
  | zero => exact fun element position => .pure (nothing element position)
  | succ depth hypothesis =>
    rintro element position memo ⟨reached, holds⟩
    have further := reached.ask (depth + 1) element position
    cases known : memo.find? element position with
    | some found =>
      rw [run_solve_of_find? search limit depth known]
      exact ⟨holds element position found known, reached, holds⟩
    | none =>
      cases full : memo.isFull limit with
      | true =>
        rw [run_solve_of_full search depth known full] at further ⊢
        exact ⟨nothing element position, further, holds⟩
      | false =>
        -- The step is followed twice: its children answer soundly, and they answer on the way.
        have solved : Yields (fun memo => search.Reached limit memo ∧ memo.Holds held)
            (search.Answers (Solved grammar options.skipBudget tokens (some 0)) element position)
            (search.step (search.solve limit depth) element position) :=
          Search.step_yields
            (fun _ _ child _ next => (hypothesis child next).imp fun _ both => both.1) position
        have answered : Yields (fun memo => search.Reached limit memo ∧ memo.Holds held)
            (search.Answers (search.Answered limit) element position)
            (search.step (search.solve limit depth) element position) :=
          Search.step_yields
            (fun _ _ child _ next memo start =>
              ⟨⟨memo, depth, start.1, rfl⟩, (hypothesis child next memo start).2⟩) position
        obtain ⟨sound, -, kept⟩ := solved memo ⟨reached, holds⟩
        have made := (answered memo ⟨reached, holds⟩).1
        have both := And.intro (Search.Answers.solved grounded sound) made.pieced
        rw [run_solve_of_room search depth known full] at further ⊢
        exact ⟨both, further, kept.insert both⟩

/-- Every answer on the way is sound with different stops, and made of chains that were built. -/
theorem Search.Answered.solved (grounded : Grounded grammar.case grammar.elements)
    (answered : (Search.of grammar options tokens).Answered limit element position found) :
    Solved grammar options.skipBudget tokens (some 0) element position found ∧
      (Search.of grammar options tokens).Pieced limit element position found := by
  obtain ⟨memo, depth, reached, rfl⟩ := answered
  have yields := Search.solve_yields_pieced grounded options tokens limit
  refine (yields depth element position memo ⟨reached, ?_⟩).1
  induction reached with
  | start => exact Memo.holds_empty _
  | ask earlier depth element position hypothesis =>
    exact (yields depth element position _ ⟨earlier, hypothesis⟩).2.2

/-- Every chain that is built on the way is sound. -/
theorem Search.Builds.sound (grounded : Grounded grammar.case grammar.elements)
    {elements : List Nat} {chain : Chain}
    (built : (Search.of grammar options tokens).Builds limit position elements chain) :
    chain.Sound grammar options.skipBudget tokens elements position := by
  induction built with
  | empty => exact .empty position
  | extend earlier answered member hypothesis =>
    exact hypothesis.extend grounded ((answered.solved grounded).1.sound _ member)

/-- Roots are no more than the stops that there are among the tokens, and each is placed. -/
theorem Rooted.placed (grounded : Grounded grammar.case grammar.elements) {budget : SkipBudget}
    (rooted : Rooted grammar budget tokens limit (List.range (tokens.length + 1)) found) :
    found.length ≤ tokens.length + 1 ∧ ∀ root ∈ found, ∃ position ≤ tokens.length,
      root.extent.Placed position tokens.length := by
  have placed : ∀ root ∈ found, ∃ position ≤ tokens.length,
      root.extent.Placed position tokens.length := by
    intro root member
    obtain ⟨position, listed, sound, -⟩ := rooted.sound root member
    have within := Nat.le_of_lt_succ (List.mem_range.1 listed)
    exact ⟨position, within, sound.placed grounded within⟩
  refine ⟨?_, placed⟩
  have stops : found.map Candidate.stop ⊆ List.range (tokens.length + 1) := by
    intro stop member
    obtain ⟨root, listed, rfl⟩ := List.mem_map.1 member
    obtain ⟨position, -, lies⟩ := placed root listed
    exact List.mem_range.2 (Nat.lt_succ_of_le lies.inside)
  simpa using (rooted.distinct.subperm stops).length_le

/-- The places at which a terminal is tried are tokens, and what it covers there are tokens. -/
theorem Search.bounds_of_mem_starts (grounded : Grounded grammar.case grammar.elements)
    {start : Nat} (tried : start ∈ (Search.of grammar options tokens).starts position) :
    start < tokens.length ∧ ∀ element kind, kindOf? grammar.elements element = some kind →
      ∀ stop ∈ (Search.of grammar options tokens).terminalEnds kind start,
        start < stop ∧ stop ≤ tokens.length := by
  constructor
  · rw [Search.starts, List.mem_range'_1, Search.of_length, Search.of_budget] at tried
    have early : options.skipBudget.searchLimit position tokens.length ≤ tokens.length := by
      cases options.skipBudget with
      | unlimited => exact Nat.le_refl _
      | limited count => exact Nat.min_le_right _ _
    omega
  · intro element kind present stop listed
    have admissible := grounded.admissible _ _ present
    exact ((Kind.mem_terminalEnds admissible options tokens start stop).1 listed).bounds admissible

end

/-- In a grammar that was built, whatever the options are, all that a search builds is placed.

Whatever is answered on the way for an element from a position among the tokens has different stops,
and each candidate is placed from there on, also when it is made a match of its parent; what is
answered after any questions is answered on the way. The candidates of sequences and repetitions are
made of chains; every chain that is built on the way is placed by its own reckoning, and as a
candidate it has the same extent, so it is ranked as before. A terminal is tried on tokens that are
there. The roots stop at different places, so they are no more than the tokens and one. Every span
of a tree lies among the tokens, and so does all its noise. -/
theorem Grammar.everything_built_is_placed {declaration : Declaration} {grammar : Grammar}
    (built : declaration.build = .ok grammar) (options : MatchOptions) (tokens : List Token) :
    let search := Search.of grammar options tokens
    let limit := options.maxMemoEntries
    (∀ asked element position, search.Answered limit element position
      (search.candidatesAfter limit asked element position)) ∧
    (∀ element, ∀ position ≤ tokens.length, ∀ found,
      search.Answered limit element position found →
      (found.map Candidate.stop).Nodup ∧
      (∀ candidate ∈ found, candidate.extent.Placed position tokens.length ∧
        ∀ parent, (Candidate.node parent position [candidate]).extent = candidate.extent) ∧
      search.Pieced limit element position found) ∧
    (∀ elements, ∀ position ≤ tokens.length, ∀ chain,
      search.Builds limit position elements chain →
      chain.extent.Placed position tokens.length ∧
        ∀ element, (chain.toCandidate element position).extent = chain.extent) ∧
    (∀ position, ∀ start ∈ search.starts position, start < tokens.length ∧
      ∀ element kind, kindOf? grammar.elements element = some kind →
        ∀ stop ∈ search.terminalEnds kind start, start < stop ∧ stop ≤ tokens.length) ∧
    (((grammar.roots options tokens).map Candidate.stop).Nodup ∧
      (grammar.roots options tokens).length ≤ tokens.length + 1 ∧
      ∀ root ∈ grammar.roots options tokens, ∃ position ≤ tokens.length,
        root.extent.Placed position tokens.length) ∧
    ∀ tree ∈ grammar.trees options tokens,
      (∀ span ∈ tree.root.postorder, span.start ≤ span.stop ∧ span.stop ≤ tokens.length) ∧
      ∀ place ∈ tree.noise, place < tokens.length := by
  intro search limit
  have grounded := Declaration.grounded_of_build built
  refine ⟨Search.answered_candidatesAfter search limit, ?_, ?_, ?_, ?_, ?_⟩
  · intro element position within found answered
    obtain ⟨solved, pieced⟩ := answered.solved grounded
    refine ⟨solved.distinct, fun candidate member => ?_, pieced⟩
    have sound := solved.sound candidate member
    exact ⟨sound.placed grounded within, sound.extent_node grounded⟩
  · intro elements position within chain builds
    have sound := builds.sound grounded
    exact ⟨sound.placed grounded within, sound.extent_toCandidate grounded⟩
  · exact fun position start tried => Search.bounds_of_mem_starts grounded tried
  · have rooted := Grammar.roots_rooted grounded options tokens
    exact ⟨rooted.distinct, rooted.placed grounded⟩
  · intro tree member
    obtain ⟨span, position, within, rfl, derivation⟩ :=
      Grammar.exists_derivation_of_mem_trees grounded member
    rw [ParseTree.ofRoot_root]
    refine ⟨derivation.bounds_of_mem_postorder grounded within, fun place noisy => ?_⟩
    have accounts := derivation.accounts grounded within
    exact List.mem_range.1 (accounts.mem_iff.1 (List.mem_append_right _ noisy))

/-- The command to the lamp is placed among the six tokens, with one token of noise inside. -/
theorem Grammar.lamp_command_is_placed : ∃ grammar, lampDeclaration.build = .ok grammar ∧
    (grammar.roots lampOptions lampSentence).map Candidate.extent = [⟨1, 6, 4⟩] ∧
    (grammar.roots lampOptions lampSentence).length ≤ 7 ∧
    ∀ root ∈ grammar.roots lampOptions lampSentence, ∃ position ≤ 6,
      root.extent.Placed position 6 := by
  obtain ⟨grammar, built, extents⟩ : ∃ grammar, lampDeclaration.build = .ok grammar ∧
      (grammar.roots lampOptions lampSentence).map Candidate.extent = [⟨1, 6, 4⟩] :=
    exists_built (by decide +kernel)
  obtain ⟨-, -, -, -, ⟨-, few, placed⟩, -⟩ :=
    everything_built_is_placed built lampOptions lampSentence
  exact ⟨grammar, built, extents, few, placed⟩

end Utterance

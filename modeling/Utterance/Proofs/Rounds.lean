import Utterance.Proofs.Extents

/-!
# How many rounds a repetition takes

A repetition adds one occurrence in each round, and nothing counts the rounds: it goes on until its
greatest number is reached or no chain grows. `Search.Rounds` is that loop, from any state and
without a bound on the rounds. It ends because an occurrence that is used takes a token, so there
are at most as many rounds as tokens are left and one (`Search.exists_rounds`), and the bounded loop
that runs does the same as the loop without a bound (`Search.Rounds.levels_eq`). Neither number of
occurrences that a repetition asks for has a part in it (`Grammar.repetition_ends`).
-/
namespace Utterance

namespace Search

section

variable {σ : Type} (solve : Nat → Nat → StateM σ (List Candidate)) (inner least : Nat)
  (most : Option Nat)

/-- One more level of chains, grown from the highest of those found so far. -/
def nextLevel (found : List (List Chain)) : StateM σ (List Chain) :=
  extendChains solve inner (advances least found.length) (found.headD [])

/-- The rounds of a repetition from some levels and a state: how many there are, and the levels and
the state they end with. -/
inductive Rounds : List (List Chain) → σ → Nat → List (List Chain) → σ → Prop where
  /-- No more levels are allowed. -/
  | full {found : List (List Chain)} {state : σ} (many : most.any (· < found.length) = true) :
      Rounds found state 0 found state
  /-- A round in which no chain grows is the last one. -/
  | last {found : List (List Chain)} {state after : σ}
      (few : most.any (· < found.length) = false)
      (stuck : (nextLevel solve inner least found).run state = ([], after)) :
      Rounds found state 1 found after
  /-- A round in which chains grow is followed by others. -/
  | next {found levels : List (List Chain)} {level : List Chain} {state middle after : σ}
      {rounds : Nat} (few : most.any (· < found.length) = false)
      (grown : (nextLevel solve inner least found).run state = (level, middle))
      (filled : level ≠ []) (later : Rounds (level :: found) middle rounds levels after) :
      Rounds found state (rounds + 1) levels after

end

variable {σ : Type} {solve : Nat → Nat → StateM σ (List Candidate)} {inner least position : Nat}
  {most : Option Nat} {found levels : List (List Chain)} {state after : σ} {rounds : Nat}

/-- A bounded round that is allowed grows a level, and ends or goes on with that level. -/
theorem levels_succ (few : most.any (· < found.length) = false) (fuel : Nat) :
    Search.levels solve inner least most (fuel + 1) found =
      nextLevel solve inner least found >>= fun level =>
        if level.isEmpty then pure found
        else Search.levels solve inner least most fuel (level :: found) := by
  have allowed : ¬ most.any (· < found.length) = true := by
    rw [few]
    decide
  rw [Search.levels, if_neg allowed]
  rfl

/-- The next level grows from the highest one. -/
theorem nextLevel_yields {kept : σ → Prop} {answer : Nat → List Candidate → Prop}
    (solved : ∀ next, Yields kept (answer next) (solve inner next)) (least : Nat)
    (level : List Chain) (below : List (List Chain)) :
    Yields kept (Extended answer (advances least (below.length + 1)) level)
      (nextLevel solve inner least (level :: below)) :=
  extendChains_yields solved (advances least (below.length + 1)) level

/-- Bounded rounds do what the rounds do, whatever the bound is, if it is not less than their
number. -/
theorem Rounds.levels_eq (ends : Rounds solve inner least most found state rounds levels after)
    (fuel : Nat) (enough : rounds ≤ fuel) :
    (Search.levels solve inner least most fuel found).run state = (levels, after) := by
  induction ends generalizing fuel with
  | full many =>
    cases fuel with
    | zero => rfl
    | succ fuel =>
      rw [Search.levels, if_pos many]
      rfl
  | last few stuck =>
    cases fuel with
    | zero => omega
    | succ fuel =>
      rw [levels_succ few, StateT.run_bind, stuck]
      rfl
  | next few grown filled later hypothesis =>
    cases fuel with
    | zero => omega
    | succ fuel =>
      have further := hypothesis fuel (by omega)
      have shown := mt List.isEmpty_iff.1 filled
      rw [levels_succ few, StateT.run_bind, grown]
      change StateT.run (if _ then _ else _) _ = _
      rw [if_neg shown]
      exact further

/-- The rounds from a start are one number, with one end. -/
theorem Rounds.unique {other : Nat} {others : List (List Chain)} {last : σ}
    (ends : Rounds solve inner least most found state rounds levels after)
    (also : Rounds solve inner least most found state other others last) :
    rounds = other ∧ levels = others ∧ after = last := by
  induction ends generalizing other with
  | full many =>
    cases also with
    | full again => exact ⟨rfl, rfl, rfl⟩
    | last few stuck => simp [many] at few
    | next few grown filled later => simp [many] at few
  | last few stuck =>
    cases also with
    | full many => simp [few] at many
    | last again same =>
      rw [stuck] at same
      exact ⟨rfl, rfl, (Prod.mk.inj same).2⟩
    | next again grown filled later =>
      rw [stuck] at grown
      exact absurd (Prod.mk.inj grown).1.symm filled
  | next few grown filled later hypothesis =>
    cases also with
    | full many => simp [few] at many
    | last again stuck =>
      rw [grown] at stuck
      exact absurd (Prod.mk.inj stuck).1 filled
    | next again same shown rest =>
      rw [grown] at same
      rcases Prod.mk.inj same with ⟨rfl, rfl⟩
      rcases hypothesis rest with ⟨rfl, ends⟩
      exact ⟨rfl, ends⟩

end Search

section

variable {grammar : Grammar} {budget : SkipBudget} {tokens : List Token} {limit : Option Nat}
  {inner position least min : Nat} {most : Option Nat}

/-- A repetition ends, from every state that is kept: the levels found by then and the rounds to
come are no more than the tokens that are left and two. -/
theorem Search.exists_rounds {σ : Type} {kept : σ → Prop}
    {solve : Nat → Nat → StateM σ (List Candidate)}
    (grounded : Grounded grammar.case grammar.elements)
    (minimum : least = if elementNullable grammar.elements inner then 0 else min)
    (solved : ∀ next, Yields kept (Solved grammar budget tokens limit inner next)
      (solve inner next))
    (room : Nat) :
    ∀ found state, kept state →
      Stacked (Solved grammar budget tokens limit inner) position least most found →
      tokens.length - position + 1 < found.length + room →
      ∃ rounds levels after, Search.Rounds solve inner least most found state rounds levels after ∧
        found.length + rounds ≤ tokens.length - position + 2 ∧
        Stacked (Solved grammar budget tokens limit inner) position least most levels ∧
        kept after := by
  -- Each round that is not the last adds a level, and there is only so much room for levels.
  induction room with
  | zero =>
    intro found state start stacked enough
    have bound := stacked.length_le grounded minimum
    omega
  | succ room hypothesis =>
    intro found state start stacked enough
    have bound := stacked.length_le grounded minimum
    by_cases many : most.any (· < found.length) = true
    · exact ⟨0, found, state, .full many, by omega, stacked, start⟩
    · have few : most.any (· < found.length) = false := by simpa using many
      rcases stacked.exists_cons with ⟨level, below, rfl, -⟩
      have yields := Search.nextLevel_yields solved least level below state start
      cases grown : (Search.nextLevel solve inner least (level :: below)).run state with
      | mk next middle =>
        rw [grown] at yields
        by_cases stuck : next = []
        · rw [stuck] at grown
          exact ⟨1, level :: below, middle, .last few grown, by omega, stacked, yields.2⟩
        · have more := stacked.push few yields.1 stuck
          have further : tokens.length - position + 1 <
              (next :: level :: below).length + room := by
            rw [List.length_cons]
            omega
          rcases hypothesis _ middle yields.2 more further with
            ⟨rounds, levels, after, ends, bounded, rest⟩
          rw [List.length_cons] at bounded
          exact ⟨rounds + 1, levels, after, .next few grown stuck ends, by omega, rest⟩

end

/-- In a grammar that was built, a repetition ends, whatever its bounds and the options are.

From a position among the tokens, and from every memory that a search goes through, its loop has an
end, and gets there in at most as many rounds as tokens are left and one. The chains on a level have
as many matches as there are levels below it. None of these matches is empty, each stops behind the
one before it, and so the chains stop at least as many tokens from the position as they have
matches, and not beyond the tokens. What the repetition answers is made of the levels at that end,
and the memory there is one that the search goes through. -/
theorem Grammar.repetition_ends {declaration : Declaration} {grammar : Grammar}
    (built : declaration.build = .ok grammar) (options : MatchOptions) (tokens : List Token)
    {element inner min : Nat} {max : Option Nat}
    (present : kindOf? grammar.elements element = some (.repetition inner min max))
    {position : Nat} (within : position ≤ tokens.length) (depth : Nat) {memo : Memo}
    (reached : (Search.of grammar options tokens).Reached options.maxMemoEntries memo) :
    let search := Search.of grammar options tokens
    let solve := search.solve options.maxMemoEntries depth
    let least := if elementNullable grammar.elements inner then 0 else min
    let ends := Search.Rounds solve inner least max [[.empty position]] memo
    (∃ rounds levels after, ends rounds levels after) ∧
    ∀ rounds levels after, ends rounds levels after →
      rounds ≤ tokens.length - position + 1 ∧
      (∀ level below, level :: below <:+ levels → ∀ chain ∈ level,
        chain.children.length = below.length ∧
        (∀ child ∈ chain.children, child.isEmpty = false) ∧
        (position :: chain.children.map Candidate.stop).IsChain (· < ·) ∧
        position + below.length ≤ chain.stop ∧ chain.stop ≤ tokens.length) ∧
      (search.step solve element position).run memo =
        ((offerAll Chain.extent [] (levels.take (levels.length - least)).flatten).map
          (Chain.toCandidate element position), after) ∧
      search.Reached options.maxMemoEntries after := by
  intro search solve least ends
  have grounded := Declaration.grounded_of_build built
  have solved : ∀ next, Yields (search.Reached options.maxMemoEntries)
      (Solved grammar options.skipBudget tokens (some 0) inner next) (solve inner next) :=
    fun next memo reached => ⟨(Search.Answered.solved grounded ⟨memo, depth, reached, rfl⟩).1,
      reached.ask depth inner next⟩
  have minimum : least = if elementNullable grammar.elements inner then 0 else min := rfl
  have lowest : Stacked (Solved grammar options.skipBudget tokens (some 0) inner) position least max
      [[.empty position]] := .base
  have room : tokens.length - position + 1 <
      [[Chain.empty position]].length + (tokens.length - position + 1) := by
    rw [List.length_singleton]
    omega
  rcases Search.exists_rounds grounded minimum solved _ _ memo reached lowest room with
    ⟨rounds, levels, after, way, bounded, stacked, last⟩
  rw [List.length_singleton] at bounded
  refine ⟨⟨rounds, levels, after, way⟩, fun other others final also => ?_⟩
  -- There is only one end, so it is enough to look at the one that was found.
  rcases way.unique also with ⟨rfl, rfl, rfl⟩
  refine ⟨by omega, ?_, ?_, last⟩
  · intro level below suffix chain member
    have holds := stacked.holds grounded minimum level below suffix
    have climbs := holds.climbs grounded member
    exact ⟨climbs.1, holds.filled chain member, climbs.2.1, climbs.2.2.1, by omega⟩
  · have enough : rounds ≤ search.length - position + 1 := by
      rw [Search.of_length]
      omega
    have loop := way.levels_eq (search.length - position + 1) enough
    have kinds : search.elements[element]?.map Element.kind = some (.repetition inner min max) :=
      present
    rw [Search.step, kinds]
    change (search.repetitionStep solve element inner min max position).run memo = _
    rw [Search.repetitionStep, StateT.run_bind, Search.of_elements, loop]
    rfl

/-- What a repetition repeats, and how often at least and at most. -/
def Kind.repeated? : Kind → Option (Nat × Nat × Option Nat)
  | .repetition inner min max => some (inner, min, max)
  | _ => none

/-- Only a repetition repeats anything. -/
theorem Kind.repeated?_eq_some_iff {kind : Kind} {inner min : Nat} {max : Option Nat} :
    kind.repeated? = some (inner, min, max) ↔ kind = .repetition inner min max := by
  cases kind <;> simp [repeated?]

/-- A million requests, each of which may be left out, take at most four rounds on three words. -/
theorem Grammar.please_repetition_ends : ∃ grammar, pleaseDeclaration.build = .ok grammar ∧
    kindOf? grammar.elements 2 = some (.repetition 1 1000000 none) ∧
    0 ≤ (Token.ofWords ["please", "kindly", "please"]).length ∧
    (Search.of grammar {} (Token.ofWords ["please", "kindly", "please"])).Reached none {} ∧
    ∃ rounds levels after,
      Search.Rounds ((Search.of grammar {} (Token.ofWords ["please", "kindly", "please"])).solve
        none 2) 1 (if elementNullable grammar.elements 1 then 0 else 1000000) none
        [[.empty 0]] {} rounds levels after ∧ rounds ≤ 4 := by
  obtain ⟨grammar, built, read⟩ : ∃ grammar, pleaseDeclaration.build = .ok grammar ∧
      (kindOf? grammar.elements 2).bind Kind.repeated? = some (1, 1000000, none) :=
    exists_built (by decide +kernel)
  have present : kindOf? grammar.elements 2 = some (.repetition 1 1000000 none) := by
    rcases Option.bind_eq_some_iff.1 read with ⟨kind, found, repeated⟩
    rw [found, Kind.repeated?_eq_some_iff.1 repeated]
  have within := Nat.zero_le (Token.ofWords ["please", "kindly", "please"]).length
  have begins : (Search.of grammar {} (Token.ofWords ["please", "kindly", "please"])).Reached none
      {} := .start
  have ending := repetition_ends built {} (Token.ofWords ["please", "kindly", "please"]) present
    within 2 begins
  rcases ending.1 with ⟨rounds, levels, after, way⟩
  have bounded := (ending.2 rounds levels after way).1
  exact ⟨grammar, built, present, within, begins, rounds, levels, after, way, bounded⟩

end Utterance

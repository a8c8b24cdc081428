import Utterance.Proofs.Filler

/-!
# The search with a filler mirrors the search without it

Two searches run side by side: one of tokens, and one of the same tokens with a filler put in. At
every point the second asks for the pairs of element and position that the first asks for, moved by
the room of the filler, gets the same candidates moved by it, and remembers them in the same order
(`Mirrors`). So the second is cut short where the first is, whatever the limit on the memory is.

Only a repetition may run differently, since it tries as many rounds as there are tokens left, and
there may be one more. But the rounds that are tried never run out: each level that is not empty
takes a token more than the one below (`Stacked.length_le`).
-/
namespace Utterance

/-- Whether a computation gives a result with a property and keeps a memory of some kind, and its
mirror, from that memory with room at a place, gives the result turned and keeps the memory with
that room. -/
def Mirrors {α β : Type} (kept : Memo → Prop) (place : Nat) (result : α → Prop) (turn : α → β)
    (program : StateM Memo α) (mirror : StateM Memo β) : Prop :=
  ∀ memo, kept memo → (result (program.run memo).1 ∧ kept (program.run memo).2) ∧
    mirror.run (memo.slide place) = (turn (program.run memo).1, (program.run memo).2.slide place)

namespace Mirrors

variable {α β γ δ : Type} {kept : Memo → Prop} {place : Nat} {result : α → Prop} {turn : α → β}
  {program : StateM Memo α} {mirror : StateM Memo β}

/-- What a mirrored computation gives and keeps. -/
theorem yields (mirrors : Mirrors kept place result turn program mirror) :
    Yields kept result program :=
  fun memo start => (mirrors memo start).1

/-- The property of the result may be another that the computation gives. -/
theorem of_yields {final : α → Prop} (mirrors : Mirrors kept place result turn program mirror)
    (yields : Yields kept final program) : Mirrors kept place final turn program mirror :=
  fun memo start => ⟨yields memo start, (mirrors memo start).2⟩

/-- A value is mirrored by what it is turned into. -/
theorem pure {value : α} {image : β} (holds : result value) (turned : image = turn value) :
    Mirrors kept place result turn (Pure.pure value) (Pure.pure image) := by
  intro memo start
  refine ⟨⟨holds, start⟩, ?_⟩
  rw [turned]
  rfl

/-- A computation may go on with what another one gives. -/
theorem bind {next : α → StateM Memo γ} {follow : β → StateM Memo δ} {final : γ → Prop}
    {change : γ → δ} (first : Mirrors kept place result turn program mirror)
    (rest : ∀ value, result value →
      Mirrors kept place final change (next value) (follow (turn value))) :
    Mirrors kept place final change (program >>= next) (mirror >>= follow) := by
  intro memo start
  obtain ⟨⟨holds, middle⟩, moved⟩ := first memo start
  have follows := rest _ holds _ middle
  rw [StateT.run_bind, StateT.run_bind, moved]
  exact follows

/-- A loop is mirrored if each round is, on items that are moved. -/
theorem foldlM {step : γ → α → StateM Memo γ} {follow : δ → β → StateM Memo δ} {items : List α}
    {first : γ} {holds : γ → Prop} {change : γ → δ} (move : α → β) (initial : holds first)
    (round : ∀ value, ∀ item ∈ items, holds value →
      Mirrors kept place holds change (step value item) (follow (change value) (move item))) :
    Mirrors kept place holds change (items.foldlM step first)
      ((items.map move).foldlM follow (change first)) := by
  induction items generalizing first with
  | nil => exact .pure initial rfl
  | cons item rest hypothesis =>
    rw [List.map_cons, List.foldlM_cons, List.foldlM_cons]
    refine (round first item List.mem_cons_self initial).bind fun value reached => ?_
    exact hypothesis reached fun other next member =>
      round other next (List.mem_cons_of_mem _ member)

/-- A loop over the same items is mirrored if each round is. -/
theorem foldlM_self {step : γ → α → StateM Memo γ} {follow : δ → α → StateM Memo δ}
    {items : List α} {first : γ} {holds : γ → Prop} {change : γ → δ} (initial : holds first)
    (round : ∀ value, ∀ item ∈ items, holds value →
      Mirrors kept place holds change (step value item) (follow (change value) item)) :
    Mirrors kept place holds change (items.foldlM step first)
      (items.foldlM follow (change first)) := by
  have moved := Mirrors.foldlM id initial round
  rwa [List.map_id] at moved

end Mirrors

section

variable (grammar : Grammar) (tokens : List Token)

/-- Answers whose candidates are sound and stop at different places, complete or cut short. -/
abbrev Trusted : Answer := Solved grammar .unlimited tokens (some 0)

/-- Whether the answers of a way to solve an element are mirrored by those of another, from every
position. -/
def Mirrored (kept : Memo → Prop) (place : Nat)
    (solve mirror : Nat → Nat → StateM Memo (List Candidate)) (element : Nat) : Prop :=
  ∀ position, Mirrors kept place (Trusted grammar tokens element position)
    (List.map (Candidate.slide place)) (solve element position)
    (mirror element (slidePosition place position))

/-- Whether a chain holds sound candidates from a position on. -/
def Linked (position : Nat) (chain : Chain) : Prop :=
  ∃ elements, chain.Sound grammar .unlimited tokens elements position

end

section

variable {grammar : Grammar} {tokens : List Token} {kept : Memo → Prop}
  {solve mirror : Nat → Nat → StateM Memo (List Candidate)}
  {place element inner position least min : Nat} {most : Option Nat}

/-- A chain of sound candidates has its extent slide. -/
theorem Linked.slides (grounded : Grounded grammar.case grammar.elements) {chain : Chain}
    (linked : Linked grammar tokens position chain) (place : Nat) :
    Slides Chain.extent place (Chain.slide place) chain := by
  obtain ⟨elements, sound⟩ := linked
  exact sound.slides grounded place

/-- An occurrence is used when it was. -/
theorem advances_slide (place least count : Nat) (chain : Chain) (candidate : Candidate) :
    advances least count (chain.slide place) (candidate.slide place) =
      advances least count chain candidate := by
  have stops : ((candidate.slide place).stop == (chain.slide place).stop) =
      (candidate.stop == chain.stop) := by
    rw [Candidate.slide_stop, Bool.eq_iff_iff, beq_iff_eq, beq_iff_eq]
    exact slidePosition_inj
  rw [advances, advances, stops]

namespace Search

/-- Extending chains is mirrored by extending the chains moved. -/
theorem extendChains_mirrors (grounded : Grounded grammar.case grammar.elements)
    (asked : Mirrored grammar tokens kept place solve mirror element)
    {keep other : Chain → Candidate → Bool}
    (same : ∀ chain candidate,
      other (chain.slide place) (candidate.slide place) = keep chain candidate)
    {chains : List Chain} (linked : ∀ chain ∈ chains, Linked grammar tokens position chain) :
    Mirrors kept place (fun found => ∀ chain ∈ found, Linked grammar tokens position chain)
      (List.map (Chain.slide place)) (extendChains solve element keep chains)
      (extendChains mirror element other (chains.map (Chain.slide place))) := by
  refine Mirrors.foldlM (Chain.slide place) (by simp) fun found chain member held => ?_
  refine (asked chain.stop).bind fun candidates trusted => ?_
  have grown : ∀ item ∈ (candidates.filter (keep chain)).map chain.extend,
      Linked grammar tokens position item := by
    intro item listed
    obtain ⟨candidate, passed, rfl⟩ := List.mem_map.1 listed
    obtain ⟨elements, sound⟩ := linked chain member
    exact ⟨_, sound.extend grounded (trusted.sound candidate (List.mem_of_mem_filter passed))⟩
  have items : ((candidates.map (Candidate.slide place)).filter (other (chain.slide place))).map
        (chain.slide place).extend =
      ((candidates.filter (keep chain)).map chain.extend).map (Chain.slide place) := by
    rw [List.filter_map, List.map_map, List.map_map]
    have passes : candidates.filter (other (chain.slide place) ∘ Candidate.slide place) =
        candidates.filter (keep chain) :=
      List.filter_congr fun candidate _ => same chain candidate
    rw [passes]
    exact List.map_congr_left fun candidate _ => (Chain.slide_extend place chain candidate).symm
  refine .pure (fun item chosen => ?_) ?_
  · exact (mem_of_mem_offerAll chosen).elim (held item) (grown item)
  · rw [items]
    exact offerAll_map (fun item before => (held item before).slides grounded place)
      fun item listed => (grown item listed).slides grounded place

/-- Chains that are turned into candidates slide before or after. -/
theorem map_toCandidate_slide (grounded : Grounded grammar.case grammar.elements)
    {chains : List Chain} (linked : ∀ chain ∈ chains, Linked grammar tokens position chain)
    (element place : Nat) :
    (chains.map (Chain.slide place)).map
        (Chain.toCandidate element (slidePosition place position)) =
      (chains.map (Chain.toCandidate element position)).map (Candidate.slide place) := by
  rw [List.map_map, List.map_map]
  refine List.map_congr_left fun chain member => ?_
  obtain ⟨elements, sound⟩ := linked chain member
  exact (sound.chained.node_slide grounded element place).symm

/-- Candidates that are put inside an element slide before or after. -/
theorem map_node_slide (grounded : Grounded grammar.case grammar.elements)
    {candidates : List Candidate} (trusted : Trusted grammar tokens inner position candidates)
    (element place : Nat) :
    ((candidates.map (Candidate.slide place)).map fun candidate =>
        Candidate.node element (slidePosition place position) [candidate]) =
      (candidates.map fun candidate => Candidate.node element position [candidate]).map
        (Candidate.slide place) := by
  rw [List.map_map, List.map_map]
  refine List.map_congr_left fun candidate member => ?_
  exact ((trusted.sound candidate member).node_slide grounded element place).symm

/-- A sequence is mirrored. -/
theorem sequenceStep_mirrors (grounded : Grounded grammar.case grammar.elements)
    {children : List Nat}
    (asked : ∀ child ∈ children, Mirrored grammar tokens kept place solve mirror child)
    (element position : Nat) :
    Mirrors kept place (fun _ => True) (List.map (Candidate.slide place))
      (sequenceStep solve element children position)
      (sequenceStep mirror element children (slidePosition place position)) := by
  have loop : Mirrors kept place
      (fun found => ∀ chain ∈ found, Linked grammar tokens position chain)
      (List.map (Chain.slide place))
      (children.foldlM (fun chains child => extendChains solve child (fun _ _ => true) chains)
        [.empty position])
      (children.foldlM (fun chains child => extendChains mirror child (fun _ _ => true) chains)
        ([Chain.empty position].map (Chain.slide place))) := by
    refine Mirrors.foldlM_self ?_ fun chains child member linked => ?_
    · intro chain member
      rw [List.mem_singleton.1 member]
      exact ⟨[], .empty position⟩
    · refine extendChains_mirrors grounded (asked child member) ?_ linked
      exact fun _ _ => rfl
  refine loop.bind fun chains linked => .pure True.intro ?_
  exact map_toCandidate_slide grounded linked element place

/-- A choice is mirrored, in either order of its matches. -/
theorem choiceStep_mirrors (grounded : Grounded grammar.case grammar.elements)
    {children : List Nat}
    (asked : ∀ child ∈ children, Mirrored grammar tokens kept place solve mirror child)
    (order : ChoiceOrder) (element position : Nat) :
    Mirrors kept place (fun _ => True) (List.map (Candidate.slide place))
      (choiceStep order solve element children position)
      (choiceStep order mirror element children (slidePosition place position)) := by
  have loop : Mirrors kept place
      (fun found => ∀ item ∈ found, Slides Candidate.extent place (Candidate.slide place) item)
      (List.map (Candidate.slide place))
      (children.foldlM (fun found child => do
        let candidates ← solve child position
        pure (offerAll Candidate.extent found
          (candidates.map fun candidate => .node element position [candidate]))) [])
      (children.foldlM (fun found child => do
        let candidates ← mirror child (slidePosition place position)
        pure (offerAll Candidate.extent found
          (candidates.map fun candidate =>
            .node element (slidePosition place position) [candidate])))
        (List.map (Candidate.slide place) [])) := by
    refine Mirrors.foldlM_self (by simp) fun found child member slides => ?_
    refine (asked child member position).bind fun candidates trusted => ?_
    have items := map_node_slide grounded trusted element place
    have offered : ∀ item ∈ candidates.map fun candidate => .node element position [candidate],
        Slides Candidate.extent place (Candidate.slide place) item := by
      intro item listed
      obtain ⟨candidate, inside, rfl⟩ := List.mem_map.1 listed
      have sound := trusted.sound candidate inside
      refine ⟨Candidate.slide_extent _ _, ?_⟩
      rw [sound.extent_node grounded]
      exact (sound.slides grounded place).fits
    refine .pure (fun item chosen => ?_) ?_
    · exact (mem_of_mem_offerAll chosen).elim (slides item) (offered item)
    · rw [items]
      exact offerAll_map slides offered
  refine loop.bind fun found _ => .pure True.intro ?_
  cases order with
  | declared => rfl
  | longest =>
    refine (List.map_mergeSort fun left _ right _ => ?_).symm
    rw [Candidate.slide_stop, Candidate.slide_stop, Bool.eq_iff_iff, decide_eq_true_eq,
      decide_eq_true_eq, slidePosition_le_iff]

/-- An optional element is mirrored. -/
theorem optionalStep_mirrors (grounded : Grounded grammar.case grammar.elements)
    (asked : Mirrored grammar tokens kept place solve mirror inner)
    (element position : Nat) :
    Mirrors kept place (fun _ => True) (List.map (Candidate.slide place))
      (optionalStep solve element inner position)
      (optionalStep mirror element inner (slidePosition place position)) := by
  refine (asked position).bind fun candidates trusted => .pure True.intro ?_
  have items := map_node_slide grounded trusted element place
  have hollow : (Candidate.node element position []).slide place =
      .node element (slidePosition place position) [] :=
    (Chained.nil position : Chained (Candidate.Sound grammar .unlimited tokens) [] position []
      position).node_slide grounded element place
  simp only [items]
  rw [List.any_map]
  have stops : ((fun item : Candidate => item.stop == slidePosition place position) ∘
      Candidate.slide place) = fun item => item.stop == position := by
    funext item
    rw [Function.comp, Candidate.slide_stop, Bool.eq_iff_iff, beq_iff_eq, beq_iff_eq,
      slidePosition_inj]
  rw [stops, apply_ite (List.map (Candidate.slide place)), List.map_append, List.map_singleton,
    hollow]

/-- Levels are mirrored, whatever rounds are tried, if they are more than the tokens that are
left. -/
theorem levels_mirrors (grounded : Grounded grammar.case grammar.elements)
    (asked : Mirrored grammar tokens kept place solve mirror inner)
    (minimum : least = if elementNullable grammar.elements inner then 0 else min) (fuel : Nat) :
    ∀ other found, Stacked (Trusted grammar tokens inner) position least most found →
      tokens.length - position + 1 < found.length + fuel →
      tokens.length - position + 1 < found.length + other →
      Mirrors kept place (Stacked (Trusted grammar tokens inner) position least most)
        (List.map (List.map (Chain.slide place))) (levels solve inner least most fuel found)
        (levels mirror inner least most other (found.map (List.map (Chain.slide place)))) := by
  -- By the bound on levels, the rounds of neither search run out before the levels end.
  induction fuel with
  | zero =>
    intro other found stacked enough _
    have bound := stacked.length_le grounded minimum
    omega
  | succ fuel hypothesis =>
    intro other found stacked enough more
    have bound := stacked.length_le grounded minimum
    cases other with
    | zero => omega
    | succ other =>
      rw [levels, levels, List.length_map]
      by_cases many : most.any (· < found.length) = true
      · rw [if_pos many, if_pos many]
        exact .pure stacked rfl
      · rw [if_neg many, if_neg many]
        obtain ⟨level, below, rfl, -⟩ := stacked.exists_cons
        have holds := stacked.holds grounded minimum level below (List.suffix_refl _)
        have linked : ∀ chain ∈ level, Linked grammar tokens position chain :=
          fun chain member => ⟨_, holds.frontier.sound chain member⟩
        have grown := (extendChains_mirrors grounded asked
            (advances_slide place least (below.length + 1)) linked).of_yields
          (extendChains_yields (fun next => (asked next).yields) _ level)
        refine grown.bind fun next extended => ?_
        cases next with
        | nil => exact .pure stacked rfl
        | cons chain rest =>
          refine hypothesis other ((chain :: rest) :: level :: below)
            (stacked.push (by simpa using many) extended (by simp)) ?_ ?_
          · rw [List.length_cons]
            omega
          · rw [List.length_cons]
            omega

/-- A repetition is mirrored. -/
theorem repetitionStep_mirrors (grounded : Grounded grammar.case grammar.elements)
    {search other : Search} (elements : search.elements = grammar.elements)
    (same : other.elements = grammar.elements) (length : search.length = tokens.length)
    (longer : tokens.length - position ≤ other.length - slidePosition place position)
    (asked : Mirrored grammar tokens kept place solve mirror inner)
    (element min : Nat) (max : Option Nat) :
    Mirrors kept place (fun _ => True) (List.map (Candidate.slide place))
      (repetitionStep search solve element inner min max position)
      (repetitionStep other mirror element inner min max (slidePosition place position)) := by
  rw [repetitionStep, repetitionStep, elements, same, length]
  refine (levels_mirrors grounded asked rfl _ _ [[.empty position]] .base ?_ ?_).bind ?_
  · rw [List.length_singleton]
    omega
  · rw [List.length_singleton]
    omega
  · intro levels stacked
    generalize minimum : (if elementNullable grammar.elements inner = true then 0 else min) =
      least at stacked ⊢
    have linked : ∀ chain ∈ (levels.take (levels.length - least)).flatten,
        Linked grammar tokens position chain := by
      intro chain member
      obtain ⟨level, listed, inside⟩ := List.mem_flatten.1 member
      obtain ⟨below, suffix, -⟩ := (mem_take_iff least).1 listed
      have holds := stacked.holds grounded minimum.symm level below suffix
      exact ⟨_, holds.frontier.sound chain inside⟩
    have nothing : ∀ chain ∈ [], Slides Chain.extent place (Chain.slide place) chain := by simp
    have offered := offerAll_map nothing fun chain member =>
      (linked chain member).slides grounded place
    have chosen : ∀ chain ∈ offerAll Chain.extent [] (levels.take (levels.length - least)).flatten,
        Linked grammar tokens position chain := by
      intro chain member
      exact (mem_of_mem_offerAll member).elim (fun none => absurd none (by simp)) (linked chain)
    refine .pure True.intro ?_
    rw [List.map_nil] at offered
    rw [List.length_map, ← List.map_take, ← List.map_flatten, offered]
    exact map_toCandidate_slide grounded chosen element place

section

variable {options : MatchOptions} {filler : Token}

/-- The step of an element is mirrored. -/
theorem step_mirrors (grounded : Grounded grammar.case grammar.elements)
    (inert : Inert grammar tokens filler place) (unlimited : options.skipBudget = .unlimited)
    (element : Nat)
    (asked : ∀ kind, kindOf? grammar.elements element = some kind → ∀ child ∈ kind.children,
      Mirrored grammar tokens kept place solve mirror child) :
    Mirrored grammar tokens kept place ((Search.of grammar options tokens).step solve)
      ((Search.of grammar options (tokens.insertIdx place filler)).step mirror) element := by
  intro position
  have answers : Yields kept (Trusted grammar tokens element position)
      ((Search.of grammar options tokens).step solve element position) := by
    refine (step_yields (fun kind present child member next =>
      (asked kind present child member next).yields) position).imp fun found answers => ?_
    rw [Trusted, ← unlimited] at answers ⊢
    exact answers.solved grounded
  have longer : tokens.length - position ≤
      (Search.of grammar options (tokens.insertIdx place filler)).length -
        slidePosition place position := by
    have inside := inert.inside
    rw [of_length, List.length_insertIdx, if_pos inside]
    unfold slidePosition
    split <;> omega
  suffices mirrors : Mirrors kept place (fun _ => True) (List.map (Candidate.slide place))
      ((Search.of grammar options tokens).step solve element position)
      ((Search.of grammar options (tokens.insertIdx place filler)).step mirror element
        (slidePosition place position)) from mirrors.of_yields answers
  have kinds : grammar.elements[element]?.map Element.kind = kindOf? grammar.elements element := rfl
  rw [step, step, of_elements, of_elements, kinds]
  cases present : kindOf? grammar.elements element with
  | none => exact .pure True.intro rfl
  | some kind =>
    have children := asked kind present
    cases kind with
    | literals set =>
      exact .pure True.intro (inert.terminals_slide grounded unlimited present position)
    | pattern matcher =>
      exact .pure True.intro (inert.terminals_slide grounded unlimited present position)
    | sequence ids => exact sequenceStep_mirrors grounded children element position
    | choice ids => exact choiceStep_mirrors grounded children options.choiceOrder element position
    | optional inner =>
      exact optionalStep_mirrors grounded (children inner List.mem_cons_self) element position
    | repetition inner min max =>
      exact repetitionStep_mirrors grounded rfl rfl (of_length _ _ _) longer
        (children inner List.mem_cons_self) element min max

/-- The search with a filler mirrors the search without it, to any depth. -/
theorem solve_mirrors (grounded : Grounded grammar.case grammar.elements)
    (inert : Inert grammar tokens filler place) (unlimited : options.skipBudget = .unlimited)
    (limit : Option Nat) (depth : Nat) :
    ∀ element, Mirrored grammar tokens (Memo.Holds (Trusted grammar tokens)) place
      ((Search.of grammar options tokens).solve limit depth)
      ((Search.of grammar options (tokens.insertIdx place filler)).solve limit depth) element := by
  -- A search that is cut short, or has no depth left, is mirrored by one that is cut short too.
  have cut : ∀ element position, Trusted grammar tokens element position [] :=
    fun element position => .cut (by simp) element position
  induction depth with
  | zero => exact fun element position => .pure (cut element position) rfl
  | succ depth hypothesis =>
    intro element position memo holds
    have step := step_mirrors grounded inert unlimited element
      (fun kind _ child _ => hypothesis child) position
    have remembered : Mirrors (Memo.Holds (Trusted grammar tokens)) place
        (Trusted grammar tokens element position) (List.map (Candidate.slide place))
        (do
          let found ← (Search.of grammar options tokens).step
            ((Search.of grammar options tokens).solve limit depth) element position
          modify (·.insert element position found)
          pure found)
        (do
          let found ← (Search.of grammar options (tokens.insertIdx place filler)).step
            ((Search.of grammar options (tokens.insertIdx place filler)).solve limit depth) element
            (slidePosition place position)
          modify (·.insert element (slidePosition place position) found)
          pure found) :=
      step.bind fun found answer memo holds => ⟨⟨answer, holds.insert answer⟩, rfl⟩
    unfold solve
    simp only [StateT.run_bind, StateT.run_get, pure_bind, Memo.find?_slide, Memo.isFull_slide]
    cases lookup : memo.find? element position with
    | some found => exact ⟨⟨holds element position found lookup, holds⟩, rfl⟩
    | none =>
      simp only [Option.map_none]
      by_cases full : memo.isFull limit = true
      · rw [if_pos full, if_pos full]
        exact ⟨⟨cut element position, holds⟩, rfl⟩
      · rw [if_neg full, if_neg full]
        exact remembered memo holds

end

end Search

/-- The roots with a filler are the roots without it, moved. -/
theorem Grammar.roots_slide (grounded : Grounded grammar.case grammar.elements)
    {options : MatchOptions} {filler : Token} (inert : Inert grammar tokens filler place)
    (unlimited : options.skipBudget = .unlimited) (mode : options.mode = .first) :
    grammar.roots options (tokens.insertIdx place filler) =
      (grammar.roots options tokens).map (Candidate.slide place) := by
  have mirrors := Search.solve_mirrors grounded inert unlimited options.maxMemoEntries
    grammar.elements.length grammar.root 0 {} (Memo.holds_empty _)
  have plain : ∀ tokens, grammar.roots options tokens =
      (((Search.of grammar options tokens).candidates options.maxMemoEntries grammar.root 0).run
        {}).1 := by
    intro tokens
    simp only [Grammar.roots, Search.rootStep, Search.of_budget, unlimited, mode]
    rfl
  rw [plain, plain]
  rw [slidePosition_zero] at mirrors
  exact congrArg Prod.fst mirrors.2

end

end Utterance

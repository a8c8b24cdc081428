import Utterance.Proofs.Solved

/-!
# Levels of a repetition

A repetition grows its chains level by level, one occurrence more on each. A level of `count`
occurrences answers for chains of `count` matches that are not empty (`Level`), and every number of
such matches that the bounds allow has a level (`Finished.lt_length`): growing stops at the bound,
or where no chain grows, or after more levels than there are tokens left. Each of these matches
takes a token, so there are never more levels than that (`Stacked.length_le`).

Occurrences that are empty need no level. Leaving them out changes neither the leaves of a match nor
where it stops (`Chained.filter_filled`), and it never takes a repetition below its least number:
that number is zero when the element has an empty match, and otherwise there is nothing to leave
out.
-/
namespace Utterance

section

variable {grammar : Grammar} {budget : SkipBudget} {tokens : List Token} {limit : Option Nat}
  {inner position stop count least : Nat} {most : Option Nat} {parts : List (List Leaf)}

/-- Occurrences that are not empty take a token each. -/
theorem Chained.add_length_le (grounded : Grounded grammar.case grammar.elements)
    {elements : List Nat}
    (chained : Chained (Matches grammar budget tokens) elements position parts stop)
    (filled : ∀ part ∈ parts, part ≠ []) : position + parts.length ≤ stop := by
  induction chained with
  | nil position => exact Nat.le_refl _
  | @cons element position middle stop part elements parts first rest hypothesis =>
    have others := hypothesis fun other member => filled other (List.mem_cons_of_mem _ member)
    have ordered := first.ordered grounded
    have forward := ordered.le_stop
    have moves : middle ≠ position := fun still =>
      filled part List.mem_cons_self (ordered.stop_eq_iff.1 still)
    rw [List.length_cons]
    omega

/-- Leaving out the empty occurrences of a chain keeps where it stops. -/
theorem Chained.filter_filled (grounded : Grounded grammar.case grammar.elements)
    (chained : Chained (Matches grammar budget tokens) (List.replicate count inner) position parts
      stop) :
    Chained (Matches grammar budget tokens)
      (List.replicate (parts.filter (· ≠ [])).length inner) position (parts.filter (· ≠ []))
      stop := by
  induction count generalizing position parts with
  | zero =>
    cases chained
    exact .nil _
  | succ count hypothesis =>
    cases chained with
    | @cons _ _ middle _ part _ parts first rest =>
      have others := hypothesis rest
      by_cases empty : part = []
      · have still := (first.ordered grounded).stop_eq_iff.2 empty
        rw [List.filter_cons_of_neg (by simpa using empty)]
        rw [still] at others
        exact others
      · rw [List.filter_cons_of_pos (by simpa using empty)]
        exact .cons first others

/-- Leaves of parts are those of the parts that are not empty. -/
theorem flatten_filter_filled (parts : List (List Leaf)) :
    (parts.filter (· ≠ [])).flatten = parts.flatten := by
  induction parts with
  | nil => rfl
  | cons part rest hypothesis =>
    by_cases empty : part = []
    · rw [List.filter_cons_of_neg (by simpa using empty), hypothesis, empty]
      rfl
    · rw [List.filter_cons_of_pos (by simpa using empty), List.flatten_cons, hypothesis,
        List.flatten_cons]

/-- The least number of occurrences is met without the empty ones. -/
theorem Chained.least_le_filter (grounded : Grounded grammar.case grammar.elements) {min : Nat}
    (minimum : least = if elementNullable grammar.elements inner then 0 else min)
    (enough : min ≤ count)
    (chained : Chained (Matches grammar budget tokens) (List.replicate count inner) position parts
      stop) :
    least ≤ (parts.filter (· ≠ [])).length := by
  by_cases marked : elementNullable grammar.elements inner = true
  · rw [minimum, if_pos marked]
    exact Nat.zero_le _
  · -- Nothing is left out, since an empty occurrence would have its element marked.
    have filled : Chained (fun _ _ part _ => part ≠ []) (List.replicate count inner) position parts
        stop := by
      refine chained.imp fun child member _ _ _ matched empty => marked ?_
      rw [← List.eq_of_mem_replicate member]
      exact matched.nullable grounded empty
    have all := filled.forall_mem fun _ _ _ _ shown => shown
    rw [minimum, if_neg marked, List.filter_eq_self.2 (by simpa using all), chained.length_eq,
      List.length_replicate]
    exact enough

end

section

variable (grammar : Grammar) (budget : SkipBudget) (tokens : List Token) (limit : Option Nat)

/-- What holds of the chains with some number of occurrences: they answer for that many matches that
are not empty, hold no others, and are not too long. -/
structure Level (inner position : Nat) (most : Option Nat) (count : Nat) (level : List Chain) :
    Prop where
  /-- The chains answer for matches that are not empty. -/
  frontier : Frontier grammar budget tokens limit (· ≠ []) (List.replicate count inner) position
    level
  /-- No occurrence is empty. -/
  filled : ∀ chain ∈ level, ∀ child ∈ chain.children, child.isEmpty = false
  /-- The number is allowed. -/
  few : ∀ bound, most = some bound → count ≤ bound

end

section

variable {grammar : Grammar} {budget : SkipBudget} {tokens : List Token} {limit : Option Nat}
  {element inner position stop count least min : Nat} {most : Option Nat} {parts : List (List Leaf)}
  {level next : List Chain} {levels : List (List Chain)}

/-- An occurrence that is not empty is always used. -/
theorem advances_of_filled (grounded : Grounded grammar.case grammar.elements)
    (chain : Chain) (candidate : Candidate) (part : List Leaf) (filled : part ≠ [])
    (matched : Matches grammar budget tokens inner chain.stop part candidate.stop) :
    advances least count chain candidate = true := by
  have moves : candidate.stop ≠ chain.stop := fun still =>
    filled ((matched.ordered grounded).stop_eq_iff.1 still)
  simp [advances, moves]

/-- An occurrence that is used is not empty: with an empty match there is no least number, and
without one there is no empty candidate. -/
theorem isEmpty_eq_false_of_advances (grounded : Grounded grammar.case grammar.elements)
    (minimum : least = if elementNullable grammar.elements inner then 0 else min)
    {chain : Chain} {candidate : Candidate}
    (sound : candidate.Sound grammar budget tokens inner chain.stop candidate.stop)
    (used : advances least (count + 1) chain candidate = true) : candidate.isEmpty = false := by
  rw [← Bool.not_eq_true]
  intro empty
  have marked := (sound.reads grounded).matched.nullable grounded
    ((sound.isEmpty_iff grounded).1 empty)
  have still := (sound.isEmpty_iff_stop_eq grounded).1 empty
  rw [if_pos marked] at minimum
  simp [advances, still, minimum] at used

/-- Chains that grow from a level answer for one more occurrence. -/
theorem Level.extend (grounded : Grounded grammar.case grammar.elements)
    (below : Level grammar budget tokens limit inner position most count level)
    (extended : Extended (Solved grammar budget tokens limit inner) (advances least (count + 1))
      level next) :
    Frontier grammar budget tokens limit (· ≠ []) (List.replicate (count + 1) inner) position
      next := by
  rw [List.replicate_succ']
  exact below.frontier.extend grounded extended fun chain candidate part filled matched =>
    advances_of_filled grounded chain candidate part filled matched

/-- Each level answers for as many occurrences as there are levels below it. -/
theorem Stacked.holds (grounded : Grounded grammar.case grammar.elements)
    (minimum : least = if elementNullable grammar.elements inner then 0 else min)
    (stacked : Stacked (Solved grammar budget tokens limit inner) position least most levels) :
    ∀ level below, level :: below <:+ levels →
      Level grammar budget tokens limit inner position most below.length level := by
  induction stacked with
  | base =>
    intro level below suffix
    rcases List.suffix_cons_iff.1 suffix with same | shorter
    · obtain ⟨rfl, rfl⟩ := List.cons.inj same
      exact ⟨.empty position, by simp [Chain.empty], fun bound _ => Nat.zero_le bound⟩
    · exact absurd (List.suffix_nil.1 shorter) (by simp)
  | @push level next below earlier few extended filled hypothesis =>
    intro top lower suffix
    rcases List.suffix_cons_iff.1 suffix with same | shorter
    · obtain ⟨rfl, rfl⟩ := List.cons.inj same
      have beneath := hypothesis level below (List.suffix_refl _)
      refine ⟨beneath.extend grounded extended, ?_, ?_⟩
      · intro grown member child inside
        obtain ⟨chain, before, candidate, sound, used, rfl⟩ := extended.exists_extend member
        rcases List.mem_append.1 inside with early | late
        · exact beneath.filled chain before child early
        · rw [List.mem_singleton.1 late]
          exact isEmpty_eq_false_of_advances grounded minimum sound used
      · rintro bound rfl
        simpa using few
    · exact hypothesis top lower shorter

/-- There is a highest level, and it has a chain. -/
theorem Stacked.exists_cons {answer : Nat → List Candidate → Prop}
    (stacked : Stacked answer position least most levels) :
    ∃ level below, levels = level :: below ∧ level ≠ [] := by
  cases stacked with
  | base => exact ⟨_, _, rfl, by simp⟩
  | push earlier few extended filled => exact ⟨_, _, rfl, filled⟩

/-- Candidates that are not empty stop one behind the other, so each takes a token. -/
theorem Chained.climbs (grounded : Grounded grammar.case grammar.elements) {elements : List Nat}
    {children : List Candidate}
    (chained : Chained (Candidate.Sound grammar budget tokens) elements position children stop)
    (filled : ∀ child ∈ children, child.isEmpty = false) :
    (position :: children.map Candidate.stop).IsChain (· < ·) ∧
      position + children.length ≤ stop := by
  induction chained with
  | nil position => exact ⟨.singleton position, Nat.le_refl _⟩
  | @cons element position middle stop child elements children first rest hypothesis =>
    have others := hypothesis fun other member => filled other (List.mem_cons_of_mem _ member)
    have bounds := first.bounds grounded
    have reached : child.stop = middle := first.stop_eq grounded
    have moves : middle ≠ position := by
      intro still
      have empty := (first.isEmpty_iff_stop_eq grounded).2 still
      rw [filled child List.mem_cons_self] at empty
      exact absurd empty (by decide)
    rw [List.map_cons, List.isChain_cons_cons, List.length_cons, reached]
    refine ⟨⟨?_, others.1⟩, ?_⟩
    · omega
    · omega

/-- A chain of a level holds as many occurrences as the level counts, each of which takes a token.
-/
theorem Level.climbs (grounded : Grounded grammar.case grammar.elements) {chain : Chain}
    (holds : Level grammar budget tokens limit inner position most count level)
    (member : chain ∈ level) :
    chain.children.length = count ∧
      (position :: chain.children.map Candidate.stop).IsChain (· < ·) ∧
      position + count ≤ chain.stop ∧ chain.stop ≤ max position tokens.length := by
  have sound := holds.frontier.sound chain member
  have length : chain.children.length = count := by
    rw [sound.chained.length_eq, List.length_replicate]
  have climbs := sound.chained.climbs grounded (holds.filled chain member)
  have within := ((sound.chained.leaves grounded).imp fun _ _ _ _ _ matched =>
    matched.stop_le grounded).stop_le
  rw [length] at climbs
  exact ⟨length, climbs.1, climbs.2, within⟩

/-- Levels are no more than the tokens that are left and one. -/
theorem Stacked.length_le (grounded : Grounded grammar.case grammar.elements)
    (minimum : least = if elementNullable grammar.elements inner then 0 else min)
    (stacked : Stacked (Solved grammar budget tokens limit inner) position least most levels) :
    levels.length ≤ tokens.length - position + 1 := by
  rcases stacked.exists_cons with ⟨level, below, rfl, shown⟩
  have holds := stacked.holds grounded minimum level below (List.suffix_refl _)
  rcases List.exists_mem_of_ne_nil level shown with ⟨chain, member⟩
  have climbs := holds.climbs grounded member
  rw [List.length_cons]
  omega

/-- Every allowed number of occurrences that are not empty has a level. -/
theorem Finished.lt_length (grounded : Grounded grammar.case grammar.elements)
    (minimum : least = if elementNullable grammar.elements inner then 0 else min)
    (unlimited : limit = none)
    (stacked : Stacked (Solved grammar budget tokens limit inner) position least most levels)
    (finished : Finished (Solved grammar budget tokens limit inner) least most
      (tokens.length - position + 2) levels)
    (few : ∀ bound, most = some bound → parts.length ≤ bound)
    (chained : Chained (Matches grammar budget tokens) (List.replicate parts.length inner) position
      parts stop)
    (filled : ∀ part ∈ parts, part ≠ []) : parts.length < levels.length := by
  by_contra beyond
  have more : levels.length ≤ parts.length := Nat.le_of_not_lt beyond
  cases finished with
  | full many =>
    obtain ⟨bound, rfl, fewer⟩ := (Option.any_eq_true _ _).1 many
    have allowed := few bound rfl
    rw [decide_eq_true_eq] at fewer
    omega
  | @stuck level below extended =>
    -- As many occurrences as there are levels would have been found from the highest level.
    obtain ⟨middle, earlier⟩ := chained.take (below.length + 1)
    rw [List.take_replicate, Nat.min_eq_left (by simpa using more)] at earlier
    have holds := stacked.holds grounded minimum level below (List.suffix_refl _)
    have frontier := holds.extend grounded extended
    obtain ⟨chain, member, -⟩ := frontier.complete unlimited _ middle earlier
      fun part inside => filled part (List.mem_of_mem_take inside)
    exact absurd member (by simp)
  | spent reached =>
    have further := chained.add_length_le grounded filled
    have within := (chained.imp fun _ _ _ _ _ matched => matched.stop_le grounded).stop_le
    omega

/-- Each number less than that of all levels is the number of those below some level. -/
theorem exists_suffix_of_lt {α : Type} {levels : List α} {count : Nat}
    (less : count < levels.length) :
    ∃ level below, level :: below <:+ levels ∧ below.length = count := by
  have split := List.drop_eq_getElem_cons (show levels.length - 1 - count < levels.length by omega)
  refine ⟨_, _, split ▸ List.drop_suffix _ levels, ?_⟩
  rw [List.length_drop]
  omega

/-- The levels from a least number on are those with as many levels below. -/
theorem mem_take_iff {α : Type} {levels : List α} {level : α} (least : Nat) :
    level ∈ levels.take (levels.length - least) ↔
      ∃ below, level :: below <:+ levels ∧ least ≤ below.length := by
  constructor
  · intro member
    obtain ⟨index, inside, rfl⟩ := List.mem_take_iff_getElem.1 member
    refine ⟨levels.drop (index + 1), ?_, ?_⟩
    · rw [List.getElem_cons_drop]
      exact List.drop_suffix index levels
    · rw [List.length_drop]
      omega
  · rintro ⟨below, ⟨above, rfl⟩, enough⟩
    rw [List.mem_take_iff_getElem]
    refine ⟨above.length, ?_, by simp⟩
    rw [List.length_append, List.length_cons]
    omega

/-- A chain of occurrences that are not empty, and not too few, makes a sound candidate. -/
theorem Level.sound_toCandidate (grounded : Grounded grammar.case grammar.elements)
    (present : kindOf? grammar.elements element = some (.repetition inner min most))
    (minimum : least = if elementNullable grammar.elements inner then 0 else min)
    (holds : Level grammar budget tokens limit inner position most count level)
    (enough : least ≤ count) {chain : Chain} (member : chain ∈ level) :
    (chain.toCandidate element position).Sound grammar budget tokens element position
      chain.stop := by
  have sound := holds.frontier.sound chain member
  have forward := sound.chained.forall_mem fun _ _ _ _ sound => (sound.bounds grounded).2
  have length : chain.children.length = count := by
    rw [sound.chained.length_eq, List.length_replicate]
  refine sound.chained.sound_node grounded present rfl fun derived => ?_
  refine .repetition present ?_ ?_ ?_ ?_
  · intro span listed
    obtain ⟨child, inside, rfl⟩ := List.mem_map.1 listed
    rw [MatchSpan.isEmpty_ofCandidate _ _ (forward child inside)]
    exact holds.filled chain member child inside
  · intro bound same
    rw [List.length_map, length]
    exact holds.few bound same
  · intro unmarked
    rw [List.length_map, length]
    simpa [minimum, unmarked] using enough
  · rw [List.length_map, length]
    exact derived

/-- A repetition finds the best of its matches. -/
theorem Solved.repetition (grounded : Grounded grammar.case grammar.elements) {chains : List Chain}
    (present : kindOf? grammar.elements element = some (.repetition inner min most))
    (minimum : least = if elementNullable grammar.elements inner then 0 else min)
    (stacked : Stacked (Solved grammar budget tokens limit inner) position least most levels)
    (finished : Finished (Solved grammar budget tokens limit inner) least most
      (tokens.length - position + 2) levels)
    (gathered : Gathered Chain.extent (levels.take (levels.length - least)).flatten chains) :
    Solved grammar budget tokens limit element position
      (chains.map (Chain.toCandidate element position)) := by
  have origin : ∀ chain ∈ chains, ∃ count level,
      Level grammar budget tokens limit inner position most count level ∧ least ≤ count ∧
        chain ∈ level := by
    intro chain member
    obtain ⟨level, listed, inside⟩ := List.mem_flatten.1 (gathered.origin chain member)
    obtain ⟨below, suffix, enough⟩ := (mem_take_iff least).1 listed
    exact ⟨_, level, stacked.holds grounded minimum level below suffix, enough, inside⟩
  have sound : ∀ chain ∈ chains, ∃ elements,
      chain.Sound grammar budget tokens elements position := by
    intro chain member
    obtain ⟨count, level, holds, -, inside⟩ := origin chain member
    exact ⟨_, holds.frontier.sound chain inside⟩
  refine ⟨?_, ?_, ?_⟩
  · rw [map_stop_toCandidate grounded element sound]
    exact gathered.distinct
  · intro candidate member
    obtain ⟨chain, inside, rfl⟩ := List.mem_map.1 member
    obtain ⟨count, level, holds, enough, listed⟩ := origin chain inside
    exact (holds.sound_toCandidate grounded present minimum enough listed).self grounded
  · intro unlimited leaves stop matched
    obtain ⟨count, parts, rfl, enough, few, chained⟩ := matched.of_repetition present
    have shown : ∀ part ∈ parts.filter (· ≠ []), part ≠ [] := by simp
    have fewer : (parts.filter (· ≠ [])).length ≤ count := by
      rw [← List.length_replicate (n := count) (a := inner), ← chained.length_eq]
      exact List.length_filter_le _ _
    have reached := chained.filter_filled grounded
    have least_le := chained.least_le_filter grounded minimum enough
    have below := Finished.lt_length grounded minimum unlimited stacked finished
      (fun bound same => Nat.le_trans fewer (few bound same)) reached shown
    obtain ⟨level, lower, suffix, depth⟩ := exists_suffix_of_lt below
    have holds := stacked.holds grounded minimum level lower suffix
    rw [depth] at holds
    obtain ⟨chain, inside, rfl, atLeast⟩ := holds.frontier.complete unlimited _ stop reached shown
    rw [flatten_filter_filled] at atLeast
    have high := (mem_take_iff least).2 ⟨lower, suffix, by rwa [depth]⟩
    have listed := List.mem_flatten.2 ⟨level, high, inside⟩
    obtain ⟨better, chosen, same, further⟩ := gathered.best chain listed
    obtain ⟨elements, whole⟩ := sound better chosen
    have kept := whole.extent_toCandidate grounded element
    refine ⟨_, List.mem_map_of_mem chosen, (congrArg Extent.stop kept).trans same, ?_⟩
    rw [kept]
    exact further.trans atLeast

end

end Utterance

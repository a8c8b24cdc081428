import Utterance.Proofs.Levels

/-!
# Answers of the whole search

Every step passes on that answers are solved (`Search.Answers.solved`), so all answers of a search
are, in whatever order it is asked and whatever it remembers (`Search.candidates_yields_solved`).

The roots are the answers for the start symbol from all positions together (`Rooted`). Without a
limit on noise the answers from the first token suffice: a match that is not empty is one from every
earlier position. The widest root comes first when roots are put in that order.
-/
namespace Utterance

section

variable {grammar : Grammar} {options : MatchOptions} {tokens : List Token} {limit : Option Nat}
  {element position : Nat} {found : List Candidate}

/-- What a step answers from solved answers is solved. -/
theorem Search.Answers.solved (grounded : Grounded grammar.case grammar.elements)
    (answers : (Search.of grammar options tokens).Answers
      (Solved grammar options.skipBudget tokens limit) element position found) :
    Solved grammar options.skipBudget tokens limit element position found := by
  cases answers with
  | absent missing => exact .absent missing position
  | terminal present direct => exact .terminals grounded present direct options position
  | sequence present threaded => exact .sequence grounded present threaded
  | choice present alternatives gathered => exact .choice grounded present alternatives gathered
  | taken present inside empty => exact inside.taken grounded present empty
  | omitted present inside filled => exact inside.omitted grounded present filled
  | repetition present minimum stacked finished gathered =>
    rw [Search.of_length] at finished
    exact .repetition grounded present minimum stacked finished gathered

/-- Every answer of a search is solved, and it remembers solved answers only. -/
theorem Search.candidates_yields_solved (grounded : Grounded grammar.case grammar.elements)
    (options : MatchOptions) (tokens : List Token) (limit : Option Nat) (element position : Nat) :
    Yields (Memo.Holds (Solved grammar options.skipBudget tokens limit))
      (Solved grammar options.skipBudget tokens limit element position)
      ((Search.of grammar options tokens).candidates limit element position) := by
  refine Search.candidates_yields ?_ ?_ ?_ ?_ element position
  · intro solve element position asked
    exact (Search.step_yields asked position).imp fun _ answers => answers.solved grounded
  · exact fun _ _ present child member => grounded.child_lt present member
  · exact fun element position missing => .absent missing position
  · exact fun limited element position => .cut limited element position

/-- An answer after earlier questions is solved. -/
theorem Search.candidatesAfter_solved (grounded : Grounded grammar.case grammar.elements)
    (options : MatchOptions) (tokens : List Token) (limit : Option Nat) (asked : List (Nat × Nat))
    (element position : Nat) :
    Solved grammar options.skipBudget tokens limit element position
      ((Search.of grammar options tokens).candidatesAfter limit asked element position) := by
  have yields := Search.candidates_yields_solved grounded options tokens limit
  exact (yields element position _ (Search.memoryAfter_holds yields asked)).1

end

section

variable (grammar : Grammar) (budget : SkipBudget) (tokens : List Token) (limit : Option Nat)

/-- Whether candidates answer for the start symbol from some positions together. -/
structure Rooted (positions : List Nat) (found : List Candidate) : Prop where
  /-- No two candidates stop at the same place. -/
  distinct : (found.map Candidate.stop).Nodup
  /-- Each candidate is a match from one of the positions, an empty one from the first token. -/
  sound : ∀ candidate ∈ found, ∃ position ∈ positions,
    candidate.Sound grammar budget tokens grammar.root position candidate.stop ∧
      (candidate.isEmpty = true → position = 0)
  /-- Each match that is not empty has a candidate with its stop that is at least as good. -/
  complete : limit = none → ∀ position ∈ positions, ∀ leaves stop, leaves ≠ [] →
    Matches grammar budget tokens grammar.root position leaves stop →
    ∃ candidate ∈ found, candidate.stop = stop ∧
      candidate.extent.AtLeast (Leaf.extent position leaves)
  /-- If there is an empty match there is an empty candidate. -/
  empty : limit = none → elementNullable grammar.elements grammar.root = true →
    ∃ candidate ∈ found, candidate.stop = 0

end

section

variable {grammar : Grammar} {budget : SkipBudget} {tokens : List Token} {limit : Option Nat}
  {positions : List Nat} {found : List Candidate}

/-- What answers from the first token answers for the roots from there. -/
theorem Solved.rooted (grounded : Grounded grammar.case grammar.elements)
    (solved : Solved grammar budget tokens limit grammar.root 0 found) :
    Rooted grammar budget tokens limit [0] found := by
  refine ⟨solved.distinct, ?_, ?_, ?_⟩
  · intro candidate member
    exact ⟨0, by simp, solved.sound candidate member, fun _ => rfl⟩
  · intro unlimited position first leaves stop _ matched
    obtain rfl := List.mem_singleton.1 first
    exact solved.complete unlimited leaves stop matched
  · intro unlimited marked
    obtain ⟨candidate, member, still, -⟩ :=
      solved.complete unlimited [] 0 (matches_nil_of_nullable grounded marked 0)
    exact ⟨candidate, member, still⟩

/-- Candidates from a further position are offered without the empty ones. -/
theorem Rooted.offerAll (grounded : Grounded grammar.case grammar.elements)
    (rooted : Rooted grammar budget tokens limit positions found) {position : Nat}
    {answers : List Candidate}
    (solved : Solved grammar budget tokens limit grammar.root position answers) :
    Rooted grammar budget tokens limit (positions ++ [position])
      (offerAll Candidate.extent found (answers.filter fun candidate => !candidate.isEmpty)) := by
  have held : Gathered Candidate.extent found found :=
    ⟨rooted.distinct, fun _ member => member, fun item member => ⟨item, member, rfl, .refl _⟩⟩
  have gathered := held.offerAll (answers.filter fun candidate => !candidate.isEmpty)
  refine ⟨gathered.distinct, ?_, ?_, ?_⟩
  · intro candidate member
    rcases List.mem_append.1 (gathered.origin candidate member) with early | late
    · obtain ⟨before, listed, sound⟩ := rooted.sound candidate early
      exact ⟨before, List.mem_append_left _ listed, sound⟩
    · obtain ⟨inside, filled⟩ := List.mem_filter.1 late
      refine ⟨position, by simp, solved.sound candidate inside, fun empty => ?_⟩
      simp [empty] at filled
  · intro unlimited start listed leaves stop shown matched
    obtain ⟨candidate, offered, rfl, atLeast⟩ : ∃ candidate ∈
        found ++ answers.filter fun candidate => !candidate.isEmpty, candidate.stop = stop ∧
          candidate.extent.AtLeast (Leaf.extent start leaves) := by
      rcases List.mem_append.1 listed with early | late
      · obtain ⟨candidate, member, level⟩ :=
          rooted.complete unlimited start early leaves stop shown matched
        exact ⟨candidate, List.mem_append_left _ member, level⟩
      · obtain rfl := List.mem_singleton.1 late
        obtain ⟨candidate, member, rfl, atLeast⟩ := solved.complete unlimited leaves stop matched
        have filled : candidate.isEmpty = false := by
          rw [← Bool.not_eq_true, (solved.sound candidate member).isEmpty_iff_stop_eq grounded]
          exact fun still => shown ((matched.ordered grounded).stop_eq_iff.1 still)
        exact ⟨candidate, List.mem_append_right _ (List.mem_filter.2 ⟨member, by simp [filled]⟩),
          rfl, atLeast⟩
    obtain ⟨better, chosen, level, further⟩ := gathered.best candidate offered
    exact ⟨better, chosen, level, further.trans atLeast⟩
  · intro unlimited marked
    obtain ⟨candidate, member, still⟩ := rooted.empty unlimited marked
    obtain ⟨better, chosen, level, -⟩ := gathered.best candidate (List.mem_append_left _ member)
    exact ⟨better, chosen, level.trans still⟩

/-- Roots may be put in another order. -/
theorem Rooted.perm (rooted : Rooted grammar budget tokens limit positions found)
    {sorted : List Candidate} (perm : sorted.Perm found) :
    Rooted grammar budget tokens limit positions sorted := by
  refine ⟨(perm.map _).nodup_iff.2 rooted.distinct, ?_, ?_, ?_⟩
  · exact fun candidate member => rooted.sound candidate (perm.mem_iff.1 member)
  · intro unlimited position listed leaves stop shown matched
    obtain ⟨candidate, member, level⟩ :=
      rooted.complete unlimited position listed leaves stop shown matched
    exact ⟨candidate, perm.mem_iff.2 member, level⟩
  · intro unlimited marked
    obtain ⟨candidate, member, still⟩ := rooted.empty unlimited marked
    exact ⟨candidate, perm.mem_iff.2 member, still⟩

/-- Answers from some positions do for more, if matches from there are matches from the others. -/
theorem Rooted.widen {more : List Nat}
    (rooted : Rooted grammar budget tokens limit positions found)
    (inside : ∀ position ∈ positions, position ∈ more)
    (moves : ∀ position ∈ more, ∀ leaves stop, leaves ≠ [] →
      Matches grammar budget tokens grammar.root position leaves stop →
      ∃ other ∈ positions, Matches grammar budget tokens grammar.root other leaves stop) :
    Rooted grammar budget tokens limit more found := by
  refine ⟨rooted.distinct, ?_, ?_, rooted.empty⟩
  · intro candidate member
    obtain ⟨position, listed, sound⟩ := rooted.sound candidate member
    exact ⟨position, inside position listed, sound⟩
  · intro unlimited position listed leaves stop shown matched
    obtain ⟨other, known, moved⟩ := moves position listed leaves stop shown matched
    rw [Leaf.extent_eq_of_ne_nil shown position other]
    exact rooted.complete unlimited other known leaves stop shown moved

end

/-- Candidates that are put in order, the widest first, have none that is better than one before. -/
theorem pairwise_mergeSort_extent (found : List Candidate) :
    (found.mergeSort fun left right => !right.extent.outranks left.extent).Pairwise
      fun left right => left.extent.AtLeast right.extent := by
  have ordered : ∀ left right : Candidate,
      (!right.extent.outranks left.extent) = true ↔ left.extent.AtLeast right.extent := by
    intro left right
    rw [Extent.atLeast_iff_not_outranks, Bool.not_eq_true']
  simp only [← ordered]
  refine List.pairwise_mergeSort ?_ ?_ found
  · intro first second third
    simp only [ordered]
    exact fun left right => left.trans right
  · intro left right
    rw [Bool.or_eq_true, ordered, ordered]
    by_cases better : right.extent.outranks left.extent = true
    · exact Or.inr (.of_outranks better)
    · exact Or.inl ((Extent.atLeast_iff_not_outranks _ _).2 (by simpa using better))

section

variable {grammar : Grammar}

/-- With a limit on noise, answers from the first token and from each further one answer for the
roots from all positions. -/
theorem Search.foldlM_yields_rooted (grounded : Grounded grammar.case grammar.elements)
    {options : MatchOptions} {tokens : List Token} {limit : Option Nat} {first : List Candidate}
    (answered : Solved grammar options.skipBudget tokens limit grammar.root 0 first) :
    Yields (Memo.Holds (Solved grammar options.skipBudget tokens limit))
      (Rooted grammar options.skipBudget tokens limit (List.range (tokens.length + 1)))
      ((List.range' 1 ((Search.of grammar options tokens).length - 1)).foldlM
        (fun found position => do
          let candidates ← (Search.of grammar options tokens).candidates limit grammar.root position
          pure (offerAll Candidate.extent found (candidates.filter fun candidate =>
            !candidate.isEmpty))) first) := by
  have solved := Search.candidates_yields_solved grounded options tokens limit grammar.root
  refine Yields.imp (Yields.foldlM (fun done found => Rooted grammar options.skipBudget tokens limit
    (0 :: done) found) (answered.rooted grounded) ?_) ?_
  · intro done position found member rooted
    exact (solved position).bind fun answers inside => .pure (rooted.offerAll grounded inside)
  · intro found rooted
    rw [Search.of_length] at rooted
    refine rooted.widen ?_ ?_
    · intro position member
      simp only [List.mem_cons, List.mem_range'_1] at member
      rw [List.mem_range]
      omega
    · intro position _ leaves stop shown matched
      have inside := matched.position_lt grounded shown
      refine ⟨position, ?_, matched⟩
      simp only [List.mem_cons, List.mem_range'_1]
      omega

/-- The search for the start symbol answers for all positions, and puts the widest first if so
configured. -/
theorem Search.rootStep_yields (grounded : Grounded grammar.case grammar.elements)
    (options : MatchOptions) (tokens : List Token) (limit : Option Nat) :
    Yields (Memo.Holds (Solved grammar options.skipBudget tokens limit))
      (fun found => Rooted grammar options.skipBudget tokens limit (List.range (tokens.length + 1))
          found ∧
        (options.mode = .widest →
          found.Pairwise fun left right => left.extent.AtLeast right.extent))
      ((Search.of grammar options tokens).rootStep
        ((Search.of grammar options tokens).candidates limit) options.mode grammar.root) := by
  refine (Search.candidates_yields_solved grounded options tokens limit grammar.root 0).bind ?_
  intro first answered
  have collected : Yields (Memo.Holds (Solved grammar options.skipBudget tokens limit))
      (Rooted grammar options.skipBudget tokens limit (List.range (tokens.length + 1))) _ :=
    Search.foldlM_yields_rooted grounded answered
  rw [Search.of_budget]
  cases budget : options.skipBudget with
  | unlimited =>
    rw [budget] at answered
    have rooted : Rooted grammar .unlimited tokens limit (List.range (tokens.length + 1))
        first := by
      refine (answered.rooted grounded).widen (by simp) ?_
      intro position _ leaves stop shown matched
      exact ⟨0, by simp, matched.earlier grounded shown (Nat.zero_le _)⟩
    cases options.mode with
    | first => exact .pure ⟨rooted, fun widest => absurd widest (by simp)⟩
    | widest =>
      exact .pure ⟨rooted.perm (List.mergeSort_perm _ _), fun _ => pairwise_mergeSort_extent first⟩
  | limited count =>
    rw [budget] at collected
    refine collected.bind fun found rooted => ?_
    cases options.mode with
    | first => exact .pure ⟨rooted, fun widest => absurd widest (by simp)⟩
    | widest =>
      exact .pure ⟨rooted.perm (List.mergeSort_perm _ _), fun _ => pairwise_mergeSort_extent found⟩

/-- The roots answer for the start symbol from all positions. -/
theorem Grammar.roots_rooted (grounded : Grounded grammar.case grammar.elements)
    (options : MatchOptions) (tokens : List Token) :
    Rooted grammar options.skipBudget tokens options.maxMemoEntries
      (List.range (tokens.length + 1)) (grammar.roots options tokens) :=
  (Search.rootStep_yields grounded options tokens options.maxMemoEntries {}
    (Memo.holds_empty _)).1.1

/-- No root is better than one before it, if the widest is to come first. -/
theorem Grammar.roots_pairwise (grounded : Grounded grammar.case grammar.elements)
    {options : MatchOptions} (tokens : List Token) (widest : options.mode = .widest) :
    (grammar.roots options tokens).Pairwise fun left right => left.extent.AtLeast right.extent :=
  (Search.rootStep_yields grounded options tokens options.maxMemoEntries {}
    (Memo.holds_empty _)).1.2 widest

end

end Utterance

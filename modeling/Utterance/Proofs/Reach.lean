import Utterance.Proofs.Memory

/-!
# A limit that reaches everything

Without a limit on noise the roots are searched for from the first token only; with one, from every
token, and what is found is offered to what was found before. When the limit allows all tokens but
one to be skipped, terminals are searched for in the same places either way
(`SkipBudget.searchLimit_of_reaches`), so the two searches find the same for each element and
position. What is found from a later token is then a match from the first token too, where one that
is at least as good is held already, and the offers change nothing:
`Grammar.roots_eq_of_reaches`.
-/
namespace Utterance

/-- A limit that allows all tokens but one to be skipped ends no search for a terminal early. -/
theorem SkipBudget.searchLimit_of_reaches {count length : Nat} (reaches : length ≤ count + 1)
    (countable : length ≤ maxCount) (position : Nat) :
    (limited count).searchLimit position length = length := by
  rw [searchLimit]
  omega

namespace Search

/-- Searches with budgets that end the search for terminals at the same places take the same
steps. -/
theorem step_congr_budget {search : Search} {budget : SkipBudget}
    (same : ∀ position, budget.searchLimit position search.length =
      search.budget.searchLimit position search.length)
    {m : Type → Type} [Monad m] (solve : Nat → Nat → m (List Candidate)) (element position : Nat) :
    { search with budget := budget }.step solve element position =
      search.step solve element position := by
  have starts : { search with budget := budget }.starts position = search.starts position := by
    rw [Search.starts, Search.starts, ← same position]
    rfl
  have terminals : ∀ kind, { search with budget := budget }.terminals element kind position =
      search.terminals element kind position := by
    intro kind
    rw [Search.terminals, Search.terminals, starts]
    rfl
  rw [step, step]
  cases search.elements[element]?.map Element.kind with
  | none => rfl
  | some kind =>
    cases kind with
    | literals set => exact congrArg pure (terminals _)
    | pattern matcher => exact congrArg pure (terminals _)
    | sequence children => rfl
    | choice children => rfl
    | optional inner => rfl
    | repetition inner min max => rfl

/-- Searches with budgets that end the search for terminals at the same places find the same. -/
theorem plain_congr_budget {search : Search} {budget : SkipBudget}
    (same : ∀ position, budget.searchLimit position search.length =
      search.budget.searchLimit position search.length) (depth : Nat) :
    { search with budget := budget }.plain depth = search.plain depth := by
  induction depth with
  | zero => rfl
  | succ depth hypothesis =>
    funext element position
    rw [plain, plain, step_congr_budget same, hypothesis]

end Search

section

variable {grammar : Grammar} {options : MatchOptions} {tokens : List Token}

/-- Without a limit on noise, what is found for an element from a later position is no better than
what is found from an earlier one, unless it is empty. -/
theorem Search.exists_atLeast_earlier (grounded : Grounded grammar.case grammar.elements)
    (free : options.skipBudget = .unlimited) {element before position : Nat}
    (le : before ≤ position) {candidate : Candidate}
    (member : candidate ∈ (Search.of grammar options tokens).afresh element position)
    (filled : candidate.isEmpty = false) :
    ∃ better ∈ (Search.of grammar options tokens).afresh element before,
      better.stop = candidate.stop ∧ better.extent.AtLeast candidate.extent := by
  have solved := afresh_solved grounded options tokens element
  rw [free] at solved
  have sound := (solved position).sound candidate member
  have shown : candidate.leaves grammar tokens ≠ [] := by
    intro none
    rw [(sound.isEmpty_iff grounded).2 none] at filled
    exact absurd filled (by simp)
  have moved : Matches grammar .unlimited tokens element before (candidate.leaves grammar tokens)
      candidate.stop := (sound.reads grounded).matched.earlier grounded shown le
  obtain ⟨better, held, level, atLeast⟩ := (solved before).complete rfl _ _ moved
  rw [Leaf.extent_eq_of_ne_nil shown before position, ← sound.extent_eq grounded] at atLeast
  exact ⟨better, held, level, atLeast⟩

/-- Without a limit on noise, offering what is found for an element from a later position to what is
found from the first token changes nothing. -/
theorem Search.offerAll_later (grounded : Grounded grammar.case grammar.elements)
    (free : options.skipBudget = .unlimited) (element position : Nat) :
    offerAll Candidate.extent ((Search.of grammar options tokens).afresh element 0)
        (((Search.of grammar options tokens).afresh element position).filter fun candidate =>
          !candidate.isEmpty) =
      (Search.of grammar options tokens).afresh element 0 := by
  refine offerAll_eq_self (afresh_solved grounded options tokens element 0).distinct ?_
  intro candidate listed
  obtain ⟨member, filled⟩ := List.mem_filter.1 listed
  exact exists_atLeast_earlier grounded free (Nat.zero_le position) member (by simpa using filled)

/-- A limit on noise that allows all tokens but one to be skipped leaves the roots as they are
without a limit, the same candidates in the same order. -/
theorem Grammar.roots_eq_of_reaches {declaration : Declaration}
    (built : declaration.build = .ok grammar) (unlimited : options.maxMemoEntries = none)
    {count : Nat} (reaches : tokens.length ≤ count + 1) (countable : tokens.length ≤ maxCount) :
    grammar.roots { options with skipBudget := .limited count } tokens =
      grammar.roots { options with skipBudget := .unlimited } tokens := by
  have grounded := Declaration.grounded_of_build built
  let free := Search.of grammar { options with skipBudget := .unlimited } tokens
  let bound : Search := { free with budget := .limited count }
  have limits : ∀ place, (SkipBudget.limited count).searchLimit place free.length =
      free.budget.searchLimit place free.length := by
    intro place
    rw [Search.of_length, SkipBudget.searchLimit_of_reaches reaches countable]
    rfl
  have same : bound.afresh = free.afresh := by
    funext element position
    rw [Search.afresh, Search.afresh, Search.plain_congr_budget limits]
  calc grammar.roots { options with skipBudget := .limited count } tokens
      = (bound.rootStep (Search.told bound.afresh) options.mode grammar.root).run :=
        roots_eq_afresh built (show { options with skipBudget := .limited count }.maxMemoEntries =
          none from unlimited) tokens
    _ = options.mode.arrange ((List.range' 1 (free.length - 1)).foldl (fun found position =>
          offerAll Candidate.extent found ((free.afresh grammar.root position).filter
            fun candidate => !candidate.isEmpty)) (free.afresh grammar.root 0)) := by
        rw [same]
        exact Search.run_rootStep_limited rfl _ _ _
    _ = options.mode.arrange (free.afresh grammar.root 0) := by
        rw [List.foldl_fixed' (Search.offerAll_later grounded rfl grammar.root)]
    _ = (free.rootStep (Search.told free.afresh) options.mode grammar.root).run :=
        (Search.run_rootStep_unlimited rfl _ _ _).symm
    _ = grammar.roots { options with skipBudget := .unlimited } tokens :=
        (roots_eq_afresh built (show { options with skipBudget := .unlimited }.maxMemoEntries =
          none from unlimited) tokens).symm

end

/-- Five tokens may be skipped in a sentence of six, so the roots are those without a limit. -/
theorem Grammar.lamp_limit_reaches : ∃ grammar, lampDeclaration.build = .ok grammar ∧
    (grammar.roots { skipBudget := .limited 5 } lampSentence).map Candidate.stop = [6] ∧
    grammar.roots { skipBudget := .limited 5 } lampSentence = grammar.roots {} lampSentence := by
  obtain ⟨grammar, built, stops⟩ : ∃ grammar, lampDeclaration.build = .ok grammar ∧
      (grammar.roots { skipBudget := .limited 5 } lampSentence).map Candidate.stop = [6] :=
    exists_built (by decide +kernel)
  refine ⟨grammar, built, stops, ?_⟩
  exact roots_eq_of_reaches built (show ({} : MatchOptions).maxMemoEntries = none from rfl)
    (show lampSentence.length ≤ 5 + 1 by decide) (by decide)

end Utterance

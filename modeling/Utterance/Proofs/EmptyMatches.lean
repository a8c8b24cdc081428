import Utterance.Proofs.Exhaustive

/-!
# Matches without tokens

Elements are marked when they are built as having an empty match or not, from the marks of their
children alone. The search never looks for empty matches as such: it keeps one candidate for each
stop, rewrites the least number of a repetition and passes over occurrences that take no token. The
two agree (`Grammar.nullable_mark_is_exact`): from every position a marked element has exactly one
candidate that stops where its search starts, and that one is empty, while an element without the
mark has none, even when the search is cut short.
-/
namespace Utterance

/-- Where no two items have the same feature, an item is the only one that has its own. -/
theorem filter_eq_singleton {α β : Type} [BEq β] [LawfulBEq β] {feature : α → β} {items : List α}
    (distinct : (items.map feature).Nodup) {item : α} (member : item ∈ items) :
    items.filter (fun other => feature other == feature item) = [item] := by
  obtain ⟨before, after, rfl⟩ := List.append_of_mem member
  rw [List.map_append, List.map_cons, List.nodup_append, List.nodup_cons] at distinct
  obtain ⟨-, ⟨later, -⟩, apart⟩ := distinct
  refine List.filter_eq_cons_iff.2 ⟨before, after, rfl, ?_, beq_self_eq_true _, ?_⟩
  · intro other listed same
    exact apart _ (List.mem_map_of_mem listed) _ List.mem_cons_self (beq_iff_eq.1 same)
  · refine List.filter_eq_nil_iff.2 fun other listed same => later ?_
    exact List.mem_map.2 ⟨other, listed, beq_iff_eq.1 same⟩

section

variable {grammar : Grammar} {budget : SkipBudget} {tokens : List Token} {limit : Option Nat}
  {element position : Nat} {positions : List Nat} {found : List Candidate} {candidate : Candidate}

/-- Without the mark no candidate stops where its search starts. -/
theorem Solved.stop_ne (grounded : Grounded grammar.case grammar.elements)
    (solved : Solved grammar budget tokens limit element position found)
    (unmarked : elementNullable grammar.elements element = false) (member : candidate ∈ found) :
    candidate.stop ≠ position := by
  intro still
  have sound := solved.sound candidate member
  have none := (sound.isEmpty_iff grounded).1 ((sound.isEmpty_iff_stop_eq grounded).2 still)
  have marked := (sound.reads grounded).matched.nullable grounded none
  rw [unmarked] at marked
  exact absurd marked (by decide)

/-- A candidate that stops where its search starts is empty there. -/
theorem Solved.extent_eq_of_stop_eq (grounded : Grounded grammar.case grammar.elements)
    (solved : Solved grammar budget tokens limit element position found)
    (member : candidate ∈ found) (still : candidate.stop = position) :
    candidate.extent = ⟨position, position, 0⟩ := by
  have sound := solved.sound candidate member
  rw [still] at sound
  exact sound.extent_of_stop_eq grounded

/-- With the mark exactly one candidate stops where its search starts. -/
theorem Solved.filter_stop_eq (grounded : Grounded grammar.case grammar.elements)
    (solved : Solved grammar budget tokens limit element position found) (unlimited : limit = none)
    (marked : elementNullable grammar.elements element = true) :
    ∃ candidate, found.filter (·.stop == position) = [candidate] ∧
      candidate.extent = ⟨position, position, 0⟩ := by
  obtain ⟨candidate, member, still, -⟩ :=
    solved.complete unlimited [] position (matches_nil_of_nullable grounded marked position)
  have only := filter_eq_singleton solved.distinct member
  rw [still] at only
  exact ⟨candidate, only, solved.extent_eq_of_stop_eq grounded member still⟩

/-- A root is empty when it stops at the first token. -/
theorem Rooted.isEmpty_iff (grounded : Grounded grammar.case grammar.elements)
    (rooted : Rooted grammar budget tokens limit positions found) (member : candidate ∈ found) :
    candidate.isEmpty = true ↔ candidate.stop = 0 := by
  obtain ⟨position, -, sound, first⟩ := rooted.sound candidate member
  have forward := (sound.bounds grounded).2
  constructor
  · intro empty
    rw [(sound.isEmpty_iff_stop_eq grounded).1 empty]
    exact first empty
  · intro zero
    rw [Candidate.isEmpty, decide_eq_true_eq]
    omega

/-- If the start symbol is marked there is exactly one empty root. -/
theorem Rooted.filter_isEmpty_eq (grounded : Grounded grammar.case grammar.elements)
    (rooted : Rooted grammar budget tokens limit positions found) (unlimited : limit = none)
    (marked : elementNullable grammar.elements grammar.root = true) :
    ∃ root, found.filter (·.isEmpty) = [root] ∧ root.extent = ⟨0, 0, 0⟩ := by
  obtain ⟨root, member, zero⟩ := rooted.empty unlimited marked
  have empty := (rooted.isEmpty_iff grounded member).2 zero
  refine ⟨root, ?_, ?_⟩
  · rw [← filter_eq_singleton rooted.distinct member, zero]
    refine List.filter_congr fun other listed => ?_
    rw [Bool.eq_iff_iff, beq_iff_eq]
    exact rooted.isEmpty_iff grounded listed
  · obtain ⟨position, -, sound, first⟩ := rooted.sound root member
    rw [first empty, zero] at sound
    exact sound.extent_of_stop_eq grounded

end

/-- In a grammar that was built, the mark for empty matches is exact. Without a limit on memory and
whatever was asked before, an element has a candidate that stops where its search starts if and only
if it is marked; that candidate is then the only such one, starts where it stops and consumes
nothing. Under any limit on memory an element without the mark has none. So, without a limit on
memory, a start symbol that is marked has a root, and exactly one root is empty. -/
theorem Grammar.nullable_mark_is_exact {declaration : Declaration} {grammar : Grammar}
    (built : declaration.build = .ok grammar) (options : MatchOptions) (tokens : List Token) :
    (options.maxMemoEntries = none → ∀ asked element position,
      let found := (Search.of grammar options tokens).candidatesAfter options.maxMemoEntries asked
        element position
      ((∃ candidate ∈ found, candidate.stop = position) ↔
        elementNullable grammar.elements element = true) ∧
      (elementNullable grammar.elements element = true →
        ∃ candidate, found.filter (·.stop == position) = [candidate] ∧
          candidate.extent = ⟨position, position, 0⟩)) ∧
    (∀ asked element position, elementNullable grammar.elements element = false →
      ∀ candidate ∈ (Search.of grammar options tokens).candidatesAfter options.maxMemoEntries asked
        element position, candidate.stop ≠ position) ∧
    (options.maxMemoEntries = none → elementNullable grammar.elements grammar.root = true →
      ∃ root, (grammar.roots options tokens).filter (·.isEmpty) = [root] ∧
        root.extent = ⟨0, 0, 0⟩) := by
  have grounded := Declaration.grounded_of_build built
  have solved := Search.candidatesAfter_solved grounded options tokens options.maxMemoEntries
  refine ⟨?_, ?_, ?_⟩
  · intro unlimited asked element position
    have single := (solved asked element position).filter_stop_eq grounded unlimited
    refine ⟨⟨?_, fun marked => ?_⟩, single⟩
    · rintro ⟨candidate, member, still⟩
      by_contra unmarked
      exact (solved asked element position).stop_ne grounded (by simpa using unmarked) member still
    · obtain ⟨candidate, only, -⟩ := single marked
      obtain ⟨member, still⟩ := List.mem_filter.1 (only ▸ List.mem_singleton_self candidate)
      exact ⟨candidate, member, beq_iff_eq.1 still⟩
  · intro asked element position unmarked candidate member
    exact (solved asked element position).stop_ne grounded unmarked member
  · intro unlimited marked
    exact (Grammar.roots_rooted grounded options tokens).filter_isEmpty_eq grounded unlimited marked

/-- Requests that may be left out, as often as one likes. -/
def pleaseDeclaration : Declaration where
  definitions := [⟨"GOAL", .repetition (.optional (.literals ["please"])) 1000000 none⟩]

/-- The request is found behind noise, and so is the empty match, once. -/
theorem Grammar.please_has_one_empty_root : ∃ grammar, pleaseDeclaration.build = .ok grammar ∧
    elementNullable grammar.elements grammar.root = true ∧
    (grammar.roots {} (Token.ofWords ["kindly", "please"])).map Candidate.extent =
      [⟨1, 2, 1⟩, ⟨0, 0, 0⟩] ∧
    ∃ root, (grammar.roots {} (Token.ofWords ["kindly", "please"])).filter (·.isEmpty) = [root] ∧
      root.extent = ⟨0, 0, 0⟩ := by
  obtain ⟨grammar, built, read⟩ : ∃ grammar, pleaseDeclaration.build = .ok grammar ∧
      (elementNullable grammar.elements grammar.root,
        (grammar.roots {} (Token.ofWords ["kindly", "please"])).map Candidate.extent) =
          (true, [⟨1, 2, 1⟩, ⟨0, 0, 0⟩]) := exists_built (by decide +kernel)
  obtain ⟨marked, extents⟩ := Prod.mk.inj read
  exact ⟨grammar, built, marked, extents,
    (nullable_mark_is_exact built {} (Token.ofWords ["kindly", "please"])).2.2 rfl marked⟩

end Utterance

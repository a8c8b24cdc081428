import Utterance.Proofs.Offer
import Utterance.Proofs.Recall

/-!
# What a step of the search answers

The step of an element asks for its children and puts their candidates together. Here that is said
without the order of asking: given what may be answered for the children, `Search.Answers` tells
what a step may answer for their parent. A sequence threads chains through its children; a choice
gathers the candidates of its alternatives; an optional element adds the empty match where there is
none; a repetition stacks levels of chains, one occurrence more on each, until no chain can grow or
the bound is met. `Search.step_yields` is the only place where the monadic step is taken apart.
-/
namespace Utterance

/-- Candidates that may be answered for an element and a position. -/
abbrev Answer := Nat → Nat → List Candidate → Prop

/-- The chains that grow from given ones by the candidates of an element: each comes from a chain
and an answer, and for each chain there is an answer all of whose candidates are used. -/
structure Extensions (answer : Nat → List Candidate → Prop) (keep : Chain → Candidate → Bool)
    (chains items : List Chain) : Prop where
  /-- Each item is a chain with one more candidate. -/
  origin : ∀ item ∈ items, ∃ chain ∈ chains, ∃ found, answer chain.stop found ∧
    ∃ candidate ∈ found, keep chain candidate = true ∧ item = chain.extend candidate
  /-- Each chain is extended by each candidate of some answer. -/
  complete : ∀ chain ∈ chains, ∃ found, answer chain.stop found ∧
    ∀ candidate ∈ found, keep chain candidate = true → chain.extend candidate ∈ items

/-- Chains grown from given ones, the best for each stop. -/
def Extended (answer : Nat → List Candidate → Prop) (keep : Chain → Candidate → Bool)
    (chains found : List Chain) : Prop :=
  ∃ items, Extensions answer keep chains items ∧ Gathered Chain.extent items found

/-- Chains through elements in order, the best for each stop after each element. -/
inductive Threaded (answer : Answer) (position : Nat) : List Nat → List Chain → Prop where
  /-- Before any element there is the chain without matches. -/
  | nil : Threaded answer position [] [.empty position]
  /-- Each chain goes on with the next element. -/
  | concat {elements : List Nat} {element : Nat} {chains found : List Chain}
      (earlier : Threaded answer position elements chains)
      (extended : Extended (answer element) (fun _ _ => true) chains found) :
      Threaded answer position (elements ++ [element]) found

/-- The candidates of alternatives as matches of their choice. -/
structure Alternatives (answer : Answer) (element position : Nat) (children : List Nat)
    (items : List Candidate) : Prop where
  /-- Each item is a match of an alternative. -/
  origin : ∀ item ∈ items, ∃ child ∈ children, ∃ found, answer child position found ∧
    ∃ candidate ∈ found, item = .node element position [candidate]
  /-- Each alternative has an answer all of whose candidates are used. -/
  complete : ∀ child ∈ children, ∃ found, answer child position found ∧
    ∀ candidate ∈ found, Candidate.node element position [candidate] ∈ items

/-- Which occurrences a repetition uses after a number of levels: one that takes no tokens only
below the least number. -/
def advances (least count : Nat) (chain : Chain) (candidate : Candidate) : Bool :=
  !(candidate.stop == chain.stop && least < count)

/-- Levels of chains, the highest first, each grown from the one below it. -/
inductive Stacked (answer : Nat → List Candidate → Prop) (position least : Nat)
    (most : Option Nat) : List (List Chain) → Prop where
  /-- The lowest level has the chain without matches. -/
  | base : Stacked answer position least most [[.empty position]]
  /-- A level that is not empty stands on those below, if one more is allowed. -/
  | push {level next : List Chain} {below : List (List Chain)}
      (earlier : Stacked answer position least most (level :: below))
      (few : most.any (· < below.length + 1) = false)
      (extended : Extended answer (advances least (below.length + 1)) level next)
      (filled : next ≠ []) :
      Stacked answer position least most (next :: level :: below)

/-- Why levels end: one more is not allowed, or none grows, or as many are there as were tried. -/
inductive Finished (answer : Nat → List Candidate → Prop) (least : Nat) (most : Option Nat)
    (tried : Nat) : List (List Chain) → Prop where
  /-- One more is not allowed. -/
  | full {found : List (List Chain)} (many : most.any (· < found.length) = true) :
      Finished answer least most tried found
  /-- No chain of the highest level grows. -/
  | stuck {level : List Chain} {below : List (List Chain)}
      (extended : Extended answer (advances least (below.length + 1)) level []) :
      Finished answer least most tried (level :: below)
  /-- As many are there as were tried. -/
  | spent {found : List (List Chain)} (reached : found.length = tried) :
      Finished answer least most tried found

/-- What the step of an element may answer, given what may be answered for its children. -/
inductive Search.Answers (search : Search) (answer : Answer) (element position : Nat) :
    List Candidate → Prop where
  /-- There is no such element. -/
  | absent (missing : kindOf? search.elements element = none) :
      Answers search answer element position []
  /-- A terminal looks at the tokens. -/
  | terminal {kind : Kind} (present : kindOf? search.elements element = some kind)
      (direct : kind.isTerminal = true) :
      Answers search answer element position (search.terminals element kind position)
  /-- A sequence threads chains through its children. -/
  | sequence {children : List Nat} {chains : List Chain}
      (present : kindOf? search.elements element = some (.sequence children))
      (threaded : Threaded answer position children chains) :
      Answers search answer element position (chains.map (Chain.toCandidate element position))
  /-- A choice gathers the matches of its alternatives. -/
  | choice {children : List Nat} {items found : List Candidate}
      (present : kindOf? search.elements element = some (.choice children))
      (alternatives : Alternatives answer element position children items)
      (gathered : Gathered Candidate.extent items found) :
      Answers search answer element position found
  /-- An optional element has the matches of its child, one of which is empty. -/
  | taken {inner : Nat} {found : List Candidate}
      (present : kindOf? search.elements element = some (.optional inner))
      (inside : answer inner position found)
      (empty : ∃ candidate ∈ found, (Candidate.node element position [candidate]).stop = position) :
      Answers search answer element position
        (found.map fun candidate => .node element position [candidate])
  /-- An optional element has the matches of its child and the empty match. -/
  | omitted {inner : Nat} {found : List Candidate}
      (present : kindOf? search.elements element = some (.optional inner))
      (inside : answer inner position found)
      (filled : ∀ candidate ∈ found,
        (Candidate.node element position [candidate]).stop ≠ position) :
      Answers search answer element position
        ((found.map fun candidate => .node element position [candidate]) ++
          [.node element position []])
  /-- A repetition gathers the levels from the least number of occurrences on. -/
  | repetition {inner min least : Nat} {max : Option Nat} {levels : List (List Chain)}
      {chains : List Chain}
      (present : kindOf? search.elements element = some (.repetition inner min max))
      (minimum : least = if elementNullable search.elements inner then 0 else min)
      (stacked : Stacked (answer inner) position least max levels)
      (finished : Finished (answer inner) least max (search.length - position + 2) levels)
      (gathered : Gathered Chain.extent (levels.take (levels.length - least)).flatten chains) :
      Answers search answer element position (chains.map (Chain.toCandidate element position))

/-- What is gathered may be put in another order. -/
theorem Gathered.perm {α : Type} {extent : α → Extent} {items found sorted : List α}
    (gathered : Gathered extent items found) (perm : sorted.Perm found) :
    Gathered extent items sorted := by
  refine ⟨?_, fun item member => gathered.origin item (perm.mem_iff.1 member), ?_⟩
  · exact (perm.map _).nodup_iff.2 gathered.distinct
  · intro item member
    obtain ⟨better, inside, level⟩ := gathered.best item member
    exact ⟨better, perm.mem_iff.2 inside, level⟩

namespace Search

variable {σ : Type} {kept : σ → Prop} {solve : Nat → Nat → StateM σ (List Candidate)}

/-- Extending chains gives the best extensions. -/
theorem extendChains_yields {answer : Nat → List Candidate → Prop} {child : Nat}
    (solved : ∀ next, Yields kept (answer next) (solve child next))
    (keep : Chain → Candidate → Bool) (chains : List Chain) :
    Yields kept (Extended answer keep chains) (extendChains solve child keep chains) := by
  refine Yields.foldlM (Extended answer keep) ⟨[], ⟨by simp, by simp⟩, .nil⟩ ?_
  rintro done chain found member ⟨items, extensions, gathered⟩
  refine (solved chain.stop).bind fun candidates answered => .pure ?_
  refine ⟨items ++ (candidates.filter (keep chain)).map chain.extend, ⟨?_, ?_⟩, gathered.offerAll _⟩
  · intro item inside
    rcases List.mem_append.1 inside with early | late
    · obtain ⟨origin, before, rest⟩ := extensions.origin item early
      exact ⟨origin, List.mem_append_left _ before, rest⟩
    · obtain ⟨candidate, passed, rfl⟩ := List.mem_map.1 late
      obtain ⟨inside, allowed⟩ := List.mem_filter.1 passed
      exact ⟨chain, by simp, candidates, answered, candidate, inside, allowed, rfl⟩
  · intro other before
    rcases List.mem_append.1 before with early | late
    · obtain ⟨answers, holds, each⟩ := extensions.complete other early
      exact ⟨answers, holds, fun candidate inside allowed =>
        List.mem_append_left _ (each candidate inside allowed)⟩
    · rw [List.mem_singleton.1 late]
      refine ⟨candidates, answered, fun candidate inside allowed => List.mem_append_right _ ?_⟩
      exact List.mem_map.2 ⟨candidate, List.mem_filter.2 ⟨inside, allowed⟩, rfl⟩

/-- A sequence threads chains through its children. -/
theorem sequenceStep_yields {answer : Answer} {children : List Nat}
    (solved : ∀ child ∈ children, ∀ next, Yields kept (answer child next) (solve child next))
    (element position : Nat) :
    Yields kept (fun found => ∃ chains, Threaded answer position children chains ∧
        found = chains.map (Chain.toCandidate element position))
      (sequenceStep solve element children position) := by
  refine Yields.bind (show Yields kept (Threaded answer position children) _ from ?_)
    fun chains threaded => .pure ⟨chains, threaded, rfl⟩
  refine Yields.foldlM (Threaded answer position) .nil ?_
  intro done child chains member threaded
  exact (extendChains_yields (solved child member) _ chains).imp fun found extended =>
    .concat threaded extended

/-- A choice gathers the matches of its alternatives, in some order. -/
theorem choiceStep_yields {answer : Answer} {children : List Nat}
    (solved : ∀ child ∈ children, ∀ next, Yields kept (answer child next) (solve child next))
    (order : ChoiceOrder) (element position : Nat) :
    Yields kept (fun found => ∃ items, Alternatives answer element position children items ∧
        Gathered Candidate.extent items found)
      (choiceStep order solve element children position) := by
  refine Yields.bind (show Yields kept (fun found => ∃ items,
    Alternatives answer element position children items ∧
      Gathered Candidate.extent items found) _ from ?_) ?_
  · refine Yields.foldlM (fun done found => ∃ items,
      Alternatives answer element position done items ∧ Gathered Candidate.extent items found)
      ⟨[], ⟨by simp, by simp⟩, .nil⟩ ?_
    rintro done child found member ⟨items, alternatives, gathered⟩
    refine (solved child member position).bind fun candidates answered => .pure ?_
    refine ⟨items ++ candidates.map fun candidate => .node element position [candidate], ⟨?_, ?_⟩,
      gathered.offerAll _⟩
    · intro item inside
      rcases List.mem_append.1 inside with early | late
      · obtain ⟨origin, before, rest⟩ := alternatives.origin item early
        exact ⟨origin, List.mem_append_left _ before, rest⟩
      · obtain ⟨candidate, found, rfl⟩ := List.mem_map.1 late
        exact ⟨child, by simp, candidates, answered, candidate, found, rfl⟩
    · intro other before
      rcases List.mem_append.1 before with early | late
      · obtain ⟨answers, holds, each⟩ := alternatives.complete other early
        exact ⟨answers, holds, fun candidate inside =>
          List.mem_append_left _ (each candidate inside)⟩
      · rw [List.mem_singleton.1 late]
        exact ⟨candidates, answered, fun candidate inside =>
          List.mem_append_right _ (List.mem_map.2 ⟨candidate, inside, rfl⟩)⟩
  · rintro found ⟨items, alternatives, gathered⟩
    refine .pure ⟨items, alternatives, ?_⟩
    cases order with
    | declared => exact gathered
    | longest => exact gathered.perm (List.mergeSort_perm _ _)

/-- Levels are stacked until they are finished. -/
theorem levels_yields {answer : Nat → List Candidate → Prop} {inner position least : Nat}
    (solved : ∀ next, Yields kept (answer next) (solve inner next)) (most : Option Nat)
    (fuel : Nat) :
    ∀ found, Stacked answer position least most found →
      Yields kept (fun levels => Stacked answer position least most levels ∧
          Finished answer least most (found.length + fuel) levels)
        (levels solve inner least most fuel found) := by
  induction fuel with
  | zero =>
    intro found stacked
    exact .pure ⟨stacked, .spent rfl⟩
  | succ fuel hypothesis =>
    intro found stacked
    unfold levels
    by_cases many : most.any (· < found.length) = true
    · rw [if_pos many]
      exact .pure ⟨stacked, .full many⟩
    · rw [if_neg many]
      obtain ⟨level, below, rfl⟩ : ∃ level below, found = level :: below := by
        cases stacked with
        | base => exact ⟨_, _, rfl⟩
        | push earlier few extended filled => exact ⟨_, _, rfl⟩
      refine Yields.bind (extendChains_yields solved (advances least (below.length + 1)) level) ?_
      intro next extended
      cases next with
      | nil => exact .pure ⟨stacked, .stuck extended⟩
      | cons chain rest =>
        have more := hypothesis _ (stacked.push (by simpa using many) extended (by simp))
        refine more.imp fun levels ⟨grown, finished⟩ => ⟨grown, ?_⟩
        rwa [List.length_cons, Nat.add_right_comm] at finished

/-- The step of an element answers what follows from the answers for its children. -/
theorem step_yields {search : Search} {answer : Answer} {element : Nat}
    (solved : ∀ kind, kindOf? search.elements element = some kind → ∀ child ∈ kind.children,
      ∀ next, Yields kept (answer child next) (solve child next))
    (position : Nat) :
    Yields kept (search.Answers answer element position) (search.step solve element position) := by
  have kinds : search.elements[element]?.map Element.kind = kindOf? search.elements element := rfl
  rw [step, kinds]
  cases present : kindOf? search.elements element with
  | none => exact .pure (.absent present)
  | some kind =>
    have asked := solved kind present
    cases kind with
    | literals set => exact .pure (.terminal present rfl)
    | pattern matcher => exact .pure (.terminal present rfl)
    | sequence children =>
      refine (sequenceStep_yields asked element position).imp ?_
      rintro found ⟨chains, threaded, rfl⟩
      exact .sequence present threaded
    | choice children =>
      refine (choiceStep_yields asked search.order element position).imp ?_
      rintro found ⟨items, alternatives, gathered⟩
      exact .choice present alternatives gathered
    | optional inner =>
      refine (asked inner List.mem_cons_self position).bind fun found answered => .pure ?_
      by_cases empty : ∃ candidate ∈ found,
          (Candidate.node element position [candidate]).stop = position
      · rw [if_pos (by simpa using empty)]
        exact .taken present answered empty
      · rw [if_neg (by simpa using empty)]
        exact .omitted present answered (by simpa using empty)
    | repetition inner min max =>
      refine (levels_yields (asked inner List.mem_cons_self) max _ _ .base).bind ?_
      rintro levels ⟨stacked, finished⟩
      have tried : [[Chain.empty position]].length + (search.length - position + 1) =
          search.length - position + 2 := by
        rw [List.length_singleton]
        omega
      rw [tried] at finished
      refine .pure (.repetition present rfl stacked finished ?_)
      simpa using (Gathered.nil : Gathered Chain.extent [] []).offerAll _

end Search

end Utterance

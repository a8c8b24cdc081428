import Utterance.Proofs.Match
import Utterance.Tree

/-!
# Trees that are derivations

`Derivation` says when a span is a match of an element that was searched for from a position, down
to its leaves: what a terminal covers and its text, one span for each child of a sequence, one span
of an alternative, at most one span inside an optional element, and spans that are not empty inside
a repetition, within its bounds. The span also frames its children: it starts with the first one
that is not empty, stops with the last one, and skips what lies between them.

Read from left to right, the leaves of a derivation are a match (`Derivation.reads`), and each holds
the words of the tokens that it covers (`Derivation.leaf_text`).
-/
namespace Utterance

namespace MatchSpan

/-- Places between spans that are not empty, given where the last such span stopped. -/
def gaps (previous : Option Nat) : List MatchSpan → List Nat
  | [] => []
  | child :: rest =>
    if child.isEmpty then gaps previous rest
    else
      (previous.elim [] fun stop => List.range' stop (child.start - stop)) ++
        gaps (some child.stop) rest

/-- Where the first span that is not empty starts, or a position if there is none. -/
def firstStart (position : Nat) (spans : List MatchSpan) : Nat :=
  ((spans.find? fun span => !span.isEmpty).map (·.start)).getD position

/-- The span of a terminal. Its text is the words of the tokens that it covers, with blanks between
them. -/
def ofTerminal (elements : List Element) (tokens : List Token) (element start stop : Nat) :
    MatchSpan where
  element := element
  name := elementName elements element
  start := start
  stop := stop
  text := some (" ".intercalate (((tokens.drop start).take (stop - start)).map (·.text)))
  skipped := []
  children := []

/-- The span of an element around the spans of its children, searched for from a position. -/
def around (elements : List Element) (element position stop : Nat) (children : List MatchSpan) :
    MatchSpan where
  element := element
  name := elementName elements element
  start := firstStart position children
  stop := stop
  text := none
  skipped := gaps none children
  children := children

/-- The tokens that the terminals of a span cover, from left to right. -/
def covered (span : MatchSpan) : List Leaf := span.leaves.map fun leaf => ⟨leaf.start, leaf.stop⟩

end MatchSpan

/-- Whether a span is a match of an element from a position, with every span inside it. -/
inductive Derivation (grammar : Grammar) (budget : SkipBudget) (tokens : List Token) :
    (element position : Nat) → (span : MatchSpan) → (stop : Nat) → Prop where
  /-- A terminal covers tokens that start within reach. -/
  | terminal {element position start stop : Nat} {kind : Kind}
      (present : kindOf? grammar.elements element = some kind) (after : position ≤ start)
      (near : start < budget.searchLimit position tokens.length)
      (covers : kind.Covers grammar.case tokens start stop) :
      Derivation grammar budget tokens element position
        (.ofTerminal grammar.elements tokens element start stop) stop
  /-- A sequence has one span for each child, each from where the one before stops. -/
  | sequence {element position stop : Nat} {children : List Nat} {spans : List MatchSpan}
      (present : kindOf? grammar.elements element = some (.sequence children))
      (chained : Chained (Derivation grammar budget tokens) children position spans stop) :
      Derivation grammar budget tokens element position
        (.around grammar.elements element position stop spans) stop
  /-- A choice has one span, of an alternative. -/
  | choice {element position child stop : Nat} {children : List Nat} {span : MatchSpan}
      (present : kindOf? grammar.elements element = some (.choice children))
      (member : child ∈ children)
      (inside : Derivation grammar budget tokens child position span stop) :
      Derivation grammar budget tokens element position
        (.around grammar.elements element position stop [span]) stop
  /-- An optional element may have one span, of its child. -/
  | optional {element position inner stop : Nat} {span : MatchSpan}
      (present : kindOf? grammar.elements element = some (.optional inner))
      (inside : Derivation grammar budget tokens inner position span stop) :
      Derivation grammar budget tokens element position
        (.around grammar.elements element position stop [span]) stop
  /-- An optional element without a span is empty at its position. -/
  | omitted {element position inner : Nat}
      (present : kindOf? grammar.elements element = some (.optional inner)) :
      Derivation grammar budget tokens element position
        (.around grammar.elements element position position []) position
  /-- A repetition has spans that are not empty, each from where the one before stops. There are no
  more than allowed, and fewer than asked for only if empty occurrences make up for them. -/
  | repetition {element position inner min stop : Nat} {max : Option Nat} {spans : List MatchSpan}
      (present : kindOf? grammar.elements element = some (.repetition inner min max))
      (filled : ∀ span ∈ spans, span.isEmpty = false)
      (few : ∀ most, max = some most → spans.length ≤ most)
      (enough : elementNullable grammar.elements inner = false → min ≤ spans.length)
      (chained : Chained (Derivation grammar budget tokens) (List.replicate spans.length inner)
        position spans stop) :
      Derivation grammar budget tokens element position
        (.around grammar.elements element position stop spans) stop

namespace MatchSpan

/-- The leaves of several spans are those of each in turn. -/
theorem leavesOfAll_eq_flatMap (spans : List MatchSpan) :
    leavesOfAll spans = spans.flatMap leaves := by
  induction spans with
  | nil => rfl
  | cons span rest hypothesis => rw [leavesOfAll, hypothesis, List.flatMap_cons]

/-- A terminal covers its own tokens. -/
@[simp] theorem covered_ofTerminal (elements : List Element) (tokens : List Token)
    (element start stop : Nat) : (ofTerminal elements tokens element start stop).covered =
      [⟨start, stop⟩] := rfl

/-- An element covers what its children cover. -/
@[simp] theorem covered_around (elements : List Element) (element position stop : Nat)
    (children : List MatchSpan) :
    (around elements element position stop children).covered = (children.map covered).flatten := by
  simp only [covered, around, leaves, leavesOfAll_eq_flatMap, List.flatMap_def, List.map_flatten,
    List.map_map]
  rfl

/-- The tokens that a span consumes are those that its leaves cover. -/
theorem consumed_eq (span : MatchSpan) (position : Nat) :
    span.consumed = (Leaf.extent position span.covered).consumed := by
  simp only [consumed, Leaf.extent, covered, List.map_map]
  rfl

end MatchSpan

/-- What the leaves of a span tell about it: they are a match, and they bound the span. -/
structure Reads (grammar : Grammar) (budget : SkipBudget) (tokens : List Token)
    (element position : Nat) (span : MatchSpan) (stop : Nat) : Prop where
  /-- The leaves are a match. -/
  matched : Matches grammar budget tokens element position span.covered stop
  /-- The span starts with the first leaf. -/
  start_eq : span.start = (Leaf.extent position span.covered).start
  /-- The span stops where the match does. -/
  stop_eq : span.stop = stop

section

variable {grammar : Grammar} {budget : SkipBudget} {tokens : List Token}
  {element position stop : Nat} {span : MatchSpan}

/-- A span is empty when it has no leaves, and else it starts before it stops. -/
theorem Reads.isEmpty_iff (grounded : Grounded grammar.case grammar.elements)
    (reads : Reads grammar budget tokens element position span stop) :
    span.start ≤ span.stop ∧ (span.isEmpty = true ↔ span.covered = []) := by
  have ordered := reads.matched.ordered grounded
  have bounds := ordered.bounds
  have start := reads.start_eq
  have last := reads.stop_eq
  refine ⟨by omega, ?_⟩
  rw [MatchSpan.isEmpty, beq_iff_eq]
  cases leaves : span.covered with
  | nil =>
    rw [leaves, Leaf.extent_nil_start] at start
    rw [leaves] at ordered
    have same : stop = position := ordered
    simp only [iff_true]
    omega
  | cons leaf rest =>
    rw [leaves, Leaf.extent_cons_start] at start
    rw [leaves] at ordered
    have filled := ordered.2.1
    have further := ordered.2.2.le_stop
    simp only [reduceCtorEq, iff_false]
    omega

/-- The first span of a chain that is not empty starts with the first leaf of the chain. -/
theorem Chained.firstStart_eq (grounded : Grounded grammar.case grammar.elements)
    {elements : List Nat} {spans : List MatchSpan}
    (chained : Chained (Reads grammar budget tokens) elements position spans stop) :
    MatchSpan.firstStart position spans =
      (Leaf.extent position (spans.map MatchSpan.covered).flatten).start := by
  induction chained with
  | nil position => rfl
  | @cons element position middle stop span elements spans first rest hypothesis =>
    obtain ⟨-, empty⟩ := first.isEmpty_iff grounded
    by_cases none : span.covered = []
    · have still : middle = position := by
        have ordered := first.matched.ordered grounded
        rw [none] at ordered
        exact ordered
      rw [still] at hypothesis
      rw [List.map_cons, List.flatten_cons, none, List.nil_append, ← hypothesis]
      simp [MatchSpan.firstStart, empty.2 none]
    · have shown : span.isEmpty = false := by
        rw [← Bool.not_eq_true]
        exact fun is => none (empty.1 is)
      have start := first.start_eq
      cases leaves : span.covered with
      | nil => exact absurd leaves none
      | cons leaf others =>
        rw [leaves, Leaf.extent_cons_start] at start
        simp [MatchSpan.firstStart, shown, start, leaves, Leaf.extent]

/-- The leaves of an element around a chain of spans are a match when those of the chain are. -/
theorem Chained.reads_around (grounded : Grounded grammar.case grammar.elements)
    {elements : List Nat} {spans : List MatchSpan}
    (chained : Chained (Reads grammar budget tokens) elements position spans stop)
    (matched : Matches grammar budget tokens element position
      (spans.map MatchSpan.covered).flatten stop) :
    Reads grammar budget tokens element position
      (.around grammar.elements element position stop spans) stop := by
  refine ⟨?_, ?_, rfl⟩
  · rw [MatchSpan.covered_around]
    exact matched
  · rw [MatchSpan.covered_around]
    exact chained.firstStart_eq grounded

/-- Read from left to right, a derivation is a match, and it starts and stops with its leaves. -/
theorem Derivation.reads (grounded : Grounded grammar.case grammar.elements)
    (derivation : Derivation grammar budget tokens element position span stop) :
    Reads grammar budget tokens element position span stop := by
  induction element using Nat.strongRecOn generalizing position span stop with
  | ind element hypothesis =>
  have single : ∀ {child span},
      Reads grammar budget tokens child position span stop →
      Matches grammar budget tokens element position span.covered stop →
      Reads grammar budget tokens element position
        (.around grammar.elements element position stop [span]) stop := by
    intro child span inside matched
    refine Chained.reads_around grounded (.cons inside (.nil stop)) ?_
    simpa using matched
  cases derivation with
  | terminal present after near covers => exact ⟨.terminal present after near covers, rfl, rfl⟩
  | sequence present chained =>
    have inside := chained.imp fun child member _ _ _ below =>
      hypothesis child (grounded.child_lt present member) below
    refine inside.reads_around grounded (.sequence present ?_)
    exact inside.map _ fun _ _ _ _ _ below => below.matched
  | choice present member inside =>
    have below := hypothesis _ (grounded.child_lt present member) inside
    exact single below (.choice present member below.matched)
  | optional present inside =>
    have below := hypothesis _ (grounded.child_lt present List.mem_cons_self) inside
    exact single below (.optional present below.matched)
  | omitted present => exact ⟨.omitted present, rfl, rfl⟩
  | repetition present filled few enough chained =>
    have inside := chained.imp fun child member _ _ _ below => by
      obtain rfl := List.eq_of_mem_replicate member
      exact hypothesis child (grounded.child_lt present List.mem_cons_self) below
    refine inside.reads_around grounded (matches_repetition grounded present enough few ?_)
    exact inside.map _ fun _ _ _ _ _ below => below.matched

/-- Induction over derivations of grounded elements: what holds of terminals, and of a span around
spans of which it holds, holds of every derivation. -/
theorem Derivation.induction (grounded : Grounded grammar.case grammar.elements)
    {motive : Nat → Nat → MatchSpan → Nat → Prop}
    (terminal : ∀ element position start stop,
      motive element position (.ofTerminal grammar.elements tokens element start stop) stop)
    (around : ∀ element elements position spans stop,
      Chained (fun element position span stop =>
        Derivation grammar budget tokens element position span stop ∧
          motive element position span stop) elements position spans stop →
      motive element position (.around grammar.elements element position stop spans) stop)
    (derivation : Derivation grammar budget tokens element position span stop) :
    motive element position span stop := by
  induction element using Nat.strongRecOn generalizing position span stop with
  | ind element hypothesis =>
  cases derivation with
  | terminal present after near covers => exact terminal _ _ _ _
  | sequence present chained =>
    refine around _ _ _ _ _ (chained.imp fun child member _ _ _ inside => ⟨inside, ?_⟩)
    exact hypothesis child (grounded.child_lt present member) inside
  | choice present member inside =>
    exact around _ _ _ _ _
      (.cons ⟨inside, hypothesis _ (grounded.child_lt present member) inside⟩ (.nil _))
  | optional present inside =>
    exact around _ _ _ _ _
      (.cons ⟨inside, hypothesis _ (grounded.child_lt present List.mem_cons_self) inside⟩ (.nil _))
  | omitted present => exact around _ _ _ _ _ (.nil _)
  | repetition present filled few enough chained =>
    refine around _ _ _ _ _ (chained.imp fun child member _ _ _ inside => ⟨inside, ?_⟩)
    obtain rfl := List.eq_of_mem_replicate member
    exact hypothesis child (grounded.child_lt present List.mem_cons_self) inside

/-- The text of each leaf of a derivation is the words of the tokens that the leaf covers, with
blanks between them. -/
theorem Derivation.leaf_text (grounded : Grounded grammar.case grammar.elements)
    (derivation : Derivation grammar budget tokens element position span stop) :
    ∀ leaf ∈ span.leaves, leaf.text =
      some (" ".intercalate (((tokens.drop leaf.start).take (leaf.stop - leaf.start)).map
        (·.text))) := by
  refine Derivation.induction (motive := fun _ _ span _ => ∀ leaf ∈ span.leaves, leaf.text =
    some (" ".intercalate (((tokens.drop leaf.start).take (leaf.stop - leaf.start)).map
      (·.text)))) grounded ?_ ?_ derivation
  · intro element position start stop leaf listed
    obtain rfl := List.mem_singleton.1 listed
    rfl
  · intro element elements position spans stop chained leaf listed
    rw [MatchSpan.around, MatchSpan.leaves, MatchSpan.leavesOfAll_eq_flatMap] at listed
    obtain ⟨child, member, inside⟩ := List.mem_flatMap.1 listed
    exact chained.forall_mem (fun _ _ _ _ below => below.2) child member leaf inside

end

end Utterance

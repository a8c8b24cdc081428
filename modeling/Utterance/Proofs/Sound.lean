import Utterance.Proofs.Answers
import Utterance.Proofs.Derivation

/-!
# Candidates are derivations

A candidate is sound for an element and a position when its span is a derivation from there and it
counts the tokens that its leaves cover. The extent by which candidates compete is then the extent
of these leaves (`Candidate.Sound.extent_eq`), and the same holds of chains
(`Chain.Sound.extent_eq`): turning a chain into a candidate changes neither where it starts and
stops nor what it consumes.
-/
namespace Utterance

section

variable (grammar : Grammar) (budget : SkipBudget) (tokens : List Token)

/-- The leaves of a candidate, from left to right. -/
def Candidate.leaves (candidate : Candidate) : List Leaf :=
  (MatchSpan.ofCandidate grammar.elements tokens candidate).covered

/-- Whether a candidate is a match of an element from a position: its span is a derivation, and it
counts what its leaves cover. -/
structure Candidate.Sound (element position : Nat) (candidate : Candidate) (stop : Nat) : Prop where
  /-- The span is a derivation. -/
  derivation : Derivation grammar budget tokens element position
    (.ofCandidate grammar.elements tokens candidate) stop
  /-- The count is that of the leaves. -/
  counted : candidate.consumed = (MatchSpan.ofCandidate grammar.elements tokens candidate).consumed

/-- Whether a chain holds sound candidates of elements in order, and keeps account of them. -/
structure Chain.Sound (elements : List Nat) (position : Nat) (chain : Chain) : Prop where
  /-- The candidates are sound, each from where the one before stops. -/
  chained : Chained (Candidate.Sound grammar budget tokens) elements position chain.children
    chain.stop
  /-- The start is that of the first candidate that is not empty. -/
  start_eq : chain.start = (chain.children.find? fun child => !child.isEmpty).map Candidate.start
  /-- The count is that of all candidates. -/
  consumed_eq : chain.consumed = (chain.children.map Candidate.consumed).sum

end

namespace MatchSpan

/-- The spans of candidates are the span of each in turn. -/
theorem ofCandidates_eq_map (elements : List Element) (tokens : List Token)
    (candidates : List Candidate) :
    ofCandidates elements tokens candidates = candidates.map (ofCandidate elements tokens) := by
  induction candidates with
  | nil => rfl
  | cons candidate rest hypothesis => rw [ofCandidates, hypothesis, List.map_cons]

/-- A span starts where its candidate does. -/
@[simp] theorem ofCandidate_start (elements : List Element) (tokens : List Token)
    (candidate : Candidate) : (ofCandidate elements tokens candidate).start = candidate.start := by
  cases candidate
  rfl

/-- A span stops where its candidate does. -/
@[simp] theorem ofCandidate_stop (elements : List Element) (tokens : List Token)
    (candidate : Candidate) : (ofCandidate elements tokens candidate).stop = candidate.stop := by
  cases candidate
  rfl

/-- A span that does not run backwards is empty when its candidate is. -/
theorem isEmpty_ofCandidate (elements : List Element) (tokens : List Token) {candidate : Candidate}
    (forward : candidate.start ≤ candidate.stop) :
    (ofCandidate elements tokens candidate).isEmpty = candidate.isEmpty := by
  rw [Bool.eq_iff_iff, Candidate.isEmpty, isEmpty, decide_eq_true_eq, beq_iff_eq,
    ofCandidate_start, ofCandidate_stop]
  omega

/-- The span of a terminal's candidate. -/
theorem ofCandidate_terminal {elements : List Element} {element : Nat} {kind : Kind}
    (present : kindOf? elements element = some kind) (direct : kind.isTerminal = true)
    (tokens : List Token) (start stop : Nat) :
    ofCandidate elements tokens (.terminal element start stop) =
      ofTerminal elements tokens element start stop := by
  obtain ⟨entry, found, rfl⟩ := Option.map_eq_some_iff.1 present
  simp [Candidate.terminal, ofCandidate, ofCandidates, ofTerminal, wordsBetween, gapsBetween, found,
    direct]

/-- Gaps between candidates are gaps between their spans. -/
theorem gapsBetween_eq_gaps (elements : List Element) (tokens : List Token)
    (candidates : List Candidate)
    (forward : ∀ candidate ∈ candidates, candidate.start ≤ candidate.stop)
    (previous : Option Nat) :
    gapsBetween previous candidates =
      gaps previous (candidates.map (ofCandidate elements tokens)) := by
  induction candidates generalizing previous with
  | nil => rfl
  | cons candidate rest hypothesis =>
    have others := hypothesis fun other member => forward other (List.mem_cons_of_mem _ member)
    have same := isEmpty_ofCandidate elements tokens (forward candidate List.mem_cons_self)
    rw [gapsBetween, List.map_cons, gaps, same, others, others, ofCandidate_start, ofCandidate_stop]
    rfl

/-- The first candidate that is not empty starts with the first such span. -/
theorem find?_start_eq_firstStart (elements : List Element) (tokens : List Token)
    (candidates : List Candidate)
    (forward : ∀ candidate ∈ candidates, candidate.start ≤ candidate.stop)
    (position : Nat) :
    ((candidates.find? fun child => !child.isEmpty).map Candidate.start).getD position =
      firstStart position (candidates.map (ofCandidate elements tokens)) := by
  induction candidates with
  | nil => rfl
  | cons candidate rest hypothesis =>
    have others := hypothesis fun other member => forward other (List.mem_cons_of_mem _ member)
    have same := isEmpty_ofCandidate elements tokens (forward candidate List.mem_cons_self)
    rw [firstStart] at others ⊢
    rw [List.map_cons, List.find?_cons, List.find?_cons, same]
    cases empty : candidate.isEmpty with
    | true => simpa using others
    | false => simp

end MatchSpan

/-- What parts consume together is the sum of what they consume. -/
theorem Leaf.extent_flatten_consumed (position : Nat) (parts : List (List Leaf)) :
    (Leaf.extent position parts.flatten).consumed =
      (parts.map fun part => (Leaf.extent position part).consumed).sum := by
  induction parts with
  | nil => rfl
  | cons part rest hypothesis =>
    rw [List.flatten_cons, Leaf.extent_append_consumed position position, hypothesis, List.map_cons,
      List.sum_cons]

section

variable {grammar : Grammar} {budget : SkipBudget} {tokens : List Token} {elements : List Nat}
  {element position stop : Nat} {candidate : Candidate} {children : List Candidate}

namespace Candidate.Sound

/-- The leaves of a sound candidate are a match. -/
theorem reads (grounded : Grounded grammar.case grammar.elements)
    (sound : candidate.Sound grammar budget tokens element position stop) :
    Reads grammar budget tokens element position (.ofCandidate grammar.elements tokens candidate)
      stop :=
  sound.derivation.reads grounded

/-- The leaves of a sound candidate are in order. -/
theorem ordered (grounded : Grounded grammar.case grammar.elements)
    (sound : candidate.Sound grammar budget tokens element position stop) :
    Leaf.Ordered position (candidate.leaves grammar tokens) stop :=
  (sound.reads grounded).matched.ordered grounded

/-- A sound candidate stops where its match does. -/
theorem stop_eq (grounded : Grounded grammar.case grammar.elements)
    (sound : candidate.Sound grammar budget tokens element position stop) :
    candidate.stop = stop := by
  rw [← (sound.reads grounded).stop_eq, MatchSpan.ofCandidate_stop]

/-- A sound candidate is sound up to where it stops. -/
theorem self (grounded : Grounded grammar.case grammar.elements)
    (sound : candidate.Sound grammar budget tokens element position stop) :
    candidate.Sound grammar budget tokens element position candidate.stop := by
  rw [sound.stop_eq grounded]
  exact sound

/-- The extent of a sound candidate is that of its leaves. -/
theorem extent_eq (grounded : Grounded grammar.case grammar.elements)
    (sound : candidate.Sound grammar budget tokens element position stop) :
    candidate.extent = Leaf.extent position (candidate.leaves grammar tokens) := by
  have reads := sound.reads grounded
  have start : candidate.start =
      (Leaf.extent position (candidate.leaves grammar tokens)).start := by
    rw [← MatchSpan.ofCandidate_start grammar.elements tokens]
    exact reads.start_eq
  have stops : candidate.stop = (Leaf.extent position (candidate.leaves grammar tokens)).stop := by
    rw [sound.stop_eq grounded]
    exact (sound.ordered grounded).extent_stop.symm
  have consumed : candidate.consumed =
      (Leaf.extent position (candidate.leaves grammar tokens)).consumed := by
    rw [sound.counted, MatchSpan.consumed_eq _ position]
    rfl
  calc
    candidate.extent = ⟨candidate.start, candidate.stop, candidate.consumed⟩ := rfl
    _ = Leaf.extent position (candidate.leaves grammar tokens) := by rw [start, stops, consumed]

/-- A sound candidate does not run backwards, and goes on from its position. -/
theorem bounds (grounded : Grounded grammar.case grammar.elements)
    (sound : candidate.Sound grammar budget tokens element position stop) :
    position ≤ candidate.start ∧ candidate.start ≤ candidate.stop := by
  have limits := (sound.ordered grounded).bounds
  have start := congrArg Extent.start (sound.extent_eq grounded)
  have stops := sound.stop_eq grounded
  change candidate.start = _ at start
  omega

/-- A sound candidate is empty when it has no leaves. -/
theorem isEmpty_iff (grounded : Grounded grammar.case grammar.elements)
    (sound : candidate.Sound grammar budget tokens element position stop) :
    candidate.isEmpty = true ↔ candidate.leaves grammar tokens = [] := by
  rw [← MatchSpan.isEmpty_ofCandidate grammar.elements tokens (sound.bounds grounded).2]
  exact ((sound.reads grounded).isEmpty_iff grounded).2

/-- A sound candidate is empty when it stops where its search starts. -/
theorem isEmpty_iff_stop_eq (grounded : Grounded grammar.case grammar.elements)
    (sound : candidate.Sound grammar budget tokens element position stop) :
    candidate.isEmpty = true ↔ stop = position := by
  rw [sound.isEmpty_iff grounded]
  exact (sound.ordered grounded).stop_eq_iff.symm

end Candidate.Sound

namespace Chained

/-- Sound candidates in a chain have spans whose leaves are matches. -/
theorem reads (grounded : Grounded grammar.case grammar.elements)
    (chained : Chained (Candidate.Sound grammar budget tokens) elements position children stop) :
    Chained (Reads grammar budget tokens) elements position
      (children.map (MatchSpan.ofCandidate grammar.elements tokens)) stop :=
  chained.map _ fun _ _ _ _ _ sound => sound.reads grounded

/-- The leaves of sound candidates in a chain are matches. -/
theorem leaves (grounded : Grounded grammar.case grammar.elements)
    (chained : Chained (Candidate.Sound grammar budget tokens) elements position children stop) :
    Chained (Matches grammar budget tokens) elements position
      (children.map (Candidate.leaves grammar tokens)) stop :=
  chained.map _ fun _ _ _ _ _ sound => (sound.reads grounded).matched

/-- The leaves of sound candidates in a chain are in order. -/
theorem leaves_ordered (grounded : Grounded grammar.case grammar.elements)
    (chained : Chained (Candidate.Sound grammar budget tokens) elements position children stop) :
    Leaf.Ordered position (children.map (Candidate.leaves grammar tokens)).flatten stop :=
  ((chained.leaves grounded).imp fun _ _ _ _ _ matched => matched.ordered grounded).ordered

/-- A chain of sound candidates stops with the last one. -/
theorem getLast?_stop (grounded : Grounded grammar.case grammar.elements)
    (chained : Chained (Candidate.Sound grammar budget tokens) elements position children stop) :
    (children.getLast?.map Candidate.stop).getD position = stop := by
  induction chained with
  | nil position => rfl
  | @cons element position middle stop child elements children first rest hypothesis =>
    rw [← hypothesis, List.getLast?_cons, Option.map_some, Option.getD_some]
    cases children.getLast? with
    | none => exact first.stop_eq grounded
    | some last => rfl

/-- A chain of empty candidates stops where it starts. -/
theorem stop_eq_of_find?_eq_none (grounded : Grounded grammar.case grammar.elements)
    (chained : Chained (Candidate.Sound grammar budget tokens) elements position children stop)
    (none : children.find? (fun child => !child.isEmpty) = none) : stop = position := by
  rw [List.find?_eq_none] at none
  induction chained with
  | nil position => rfl
  | cons first rest hypothesis =>
    rw [hypothesis fun child member => none child (List.mem_cons_of_mem _ member)]
    exact (first.isEmpty_iff_stop_eq grounded).1 (by simpa using none _ List.mem_cons_self)

/-- The extent that is computed for a chain of sound candidates is that of their leaves. -/
theorem spanOf_eq (grounded : Grounded grammar.case grammar.elements)
    (chained : Chained (Candidate.Sound grammar budget tokens) elements position children stop) :
    Candidate.spanOf position children =
      Leaf.extent position (children.map (Candidate.leaves grammar tokens)).flatten := by
  have ordered := chained.leaves_ordered grounded
  have forward := chained.forall_mem fun _ _ _ _ sound => (sound.bounds grounded).2
  have start : ((children.find? fun child => !child.isEmpty).map Candidate.start).getD position =
      (Leaf.extent position (children.map (Candidate.leaves grammar tokens)).flatten).start := by
    rw [MatchSpan.find?_start_eq_firstStart grammar.elements tokens children forward,
      (chained.reads grounded).firstStart_eq grounded, List.map_map]
    rfl
  have consumed : (children.map Candidate.consumed).foldr (· + ·) 0 =
      (Leaf.extent position (children.map (Candidate.leaves grammar tokens)).flatten).consumed := by
    rw [← List.sum_eq_foldr, Leaf.extent_flatten_consumed, List.map_map]
    congr 1
    refine List.map_congr_left (chained.forall_mem fun _ _ child _ sound => ?_)
    rw [sound.counted, MatchSpan.consumed_eq _ position]
    rfl
  have empty : stop = position →
      (Leaf.extent position (children.map (Candidate.leaves grammar tokens)).flatten).start =
        position := by
    intro still
    rw [ordered.stop_eq_iff.1 still]
    rfl
  rw [Candidate.spanOf, chained.getLast?_stop grounded, start, consumed]
  calc
    _ = (⟨(Leaf.extent position (children.map (Candidate.leaves grammar tokens)).flatten).start,
        stop,
        (Leaf.extent position (children.map (Candidate.leaves grammar tokens)).flatten).consumed⟩ :
          Extent) := by
      by_cases still : stop = position
      · rw [if_pos still, empty still]
      · rw [if_neg still]
    _ = Leaf.extent position (children.map (Candidate.leaves grammar tokens)).flatten := by
      rw [← ordered.extent_stop]

/-- The span of an element that is no terminal is framed around the spans of its children. -/
theorem ofCandidate_node (grounded : Grounded grammar.case grammar.elements) {kind : Kind}
    (present : kindOf? grammar.elements element = some kind) (composed : kind.isTerminal = false)
    (chained : Chained (Candidate.Sound grammar budget tokens) elements position children stop) :
    MatchSpan.ofCandidate grammar.elements tokens (.node element position children) =
      .around grammar.elements element position stop
        (children.map (MatchSpan.ofCandidate grammar.elements tokens)) := by
  have ordered := chained.leaves_ordered grounded
  have forward := chained.forall_mem fun _ _ _ _ sound => (sound.bounds grounded).2
  obtain ⟨entry, found, rfl⟩ := Option.map_eq_some_iff.1 present
  have start : (Candidate.spanOf position children).start = MatchSpan.firstStart position
      (children.map (MatchSpan.ofCandidate grammar.elements tokens)) := by
    rw [chained.spanOf_eq grounded, (chained.reads grounded).firstStart_eq grounded, List.map_map]
    rfl
  have last : (Candidate.spanOf position children).stop = stop := by
    rw [chained.spanOf_eq grounded, ordered.extent_stop]
  rw [Candidate.node, MatchSpan.ofCandidate, start, last, MatchSpan.ofCandidates_eq_map,
    MatchSpan.gapsBetween_eq_gaps grammar.elements tokens children forward]
  simp [MatchSpan.around, found, composed]

/-- A candidate made of sound candidates counts what its leaves cover. -/
theorem counted_node (grounded : Grounded grammar.case grammar.elements) {kind : Kind}
    (present : kindOf? grammar.elements element = some kind) (composed : kind.isTerminal = false)
    (chained : Chained (Candidate.Sound grammar budget tokens) elements position children stop) :
    (Candidate.node element position children).consumed =
      (MatchSpan.ofCandidate grammar.elements tokens
        (.node element position children)).consumed := by
  rw [MatchSpan.consumed_eq _ position, chained.ofCandidate_node grounded present composed,
    MatchSpan.covered_around, List.map_map]
  exact congrArg Extent.consumed (chained.spanOf_eq grounded)

/-- A candidate made of sound candidates is sound if its span is a derivation when theirs are. -/
theorem sound_node (grounded : Grounded grammar.case grammar.elements) {kind : Kind}
    (present : kindOf? grammar.elements element = some kind) (composed : kind.isTerminal = false)
    (chained : Chained (Candidate.Sound grammar budget tokens) elements position children stop)
    (derive : Chained (Derivation grammar budget tokens) elements position
        (children.map (MatchSpan.ofCandidate grammar.elements tokens)) stop →
      Derivation grammar budget tokens element position
        (.around grammar.elements element position stop
          (children.map (MatchSpan.ofCandidate grammar.elements tokens))) stop) :
    (Candidate.node element position children).Sound grammar budget tokens element position
      stop := by
  refine ⟨?_, chained.counted_node grounded present composed⟩
  rw [chained.ofCandidate_node grounded present composed]
  exact derive (chained.map _ fun _ _ _ _ _ sound => sound.derivation)

end Chained

/-- A candidate around one sound candidate has its extent. -/
theorem Candidate.Sound.extent_node (grounded : Grounded grammar.case grammar.elements)
    (sound : candidate.Sound grammar budget tokens element position stop) (parent : Nat) :
    (Candidate.node parent position [candidate]).extent = candidate.extent := by
  have single : Chained (Candidate.Sound grammar budget tokens) [element] position [candidate]
      stop := .cons sound (.nil stop)
  have computed := single.spanOf_eq grounded
  rw [List.map_singleton, List.flatten_singleton, ← sound.extent_eq grounded] at computed
  exact computed

/-- A candidate around one sound candidate is sound if its span is a derivation when that one is. -/
theorem Candidate.Sound.around (grounded : Grounded grammar.case grammar.elements) {kind : Kind}
    {parent : Nat} (sound : candidate.Sound grammar budget tokens element position stop)
    (present : kindOf? grammar.elements parent = some kind) (composed : kind.isTerminal = false)
    (derive : ∀ span, Derivation grammar budget tokens element position span stop →
      Derivation grammar budget tokens parent position
        (.around grammar.elements parent position stop [span]) stop) :
    (Candidate.node parent position [candidate]).Sound grammar budget tokens parent position
      stop := by
  have single : Chained (Candidate.Sound grammar budget tokens) [element] position [candidate]
      stop := .cons sound (.nil stop)
  exact single.sound_node grounded present composed fun _ => derive _ sound.derivation

namespace Chain.Sound

variable {chain : Chain}

/-- The chain without matches is sound for no elements. -/
theorem empty (position : Nat) : (Chain.empty position).Sound grammar budget tokens [] position :=
  ⟨.nil position, rfl, rfl⟩

/-- A sound chain stays sound with one more sound candidate. -/
theorem extend (grounded : Grounded grammar.case grammar.elements)
    (sound : chain.Sound grammar budget tokens elements position)
    (next : candidate.Sound grammar budget tokens element chain.stop stop) :
    (chain.extend candidate).Sound grammar budget tokens (elements ++ [element]) position := by
  refine ⟨?_, ?_, ?_⟩
  · have same := next.stop_eq grounded
    rw [← same] at next
    exact sound.chained.concat next
  · rw [Chain.extend, sound.start_eq, List.find?_append]
    cases chain.children.find? fun child => !child.isEmpty with
    | some first => rfl
    | none => cases empty : candidate.isEmpty <;> simp [empty]
  · rw [Chain.extend, sound.consumed_eq, List.map_append, List.sum_append]
    rfl

/-- The leaves of a sound chain are in order. -/
theorem ordered (grounded : Grounded grammar.case grammar.elements)
    (sound : chain.Sound grammar budget tokens elements position) :
    Leaf.Ordered position (chain.children.map (Candidate.leaves grammar tokens)).flatten
      chain.stop :=
  sound.chained.leaves_ordered grounded

/-- The extent of a sound chain is that of its leaves. -/
theorem extent_eq (grounded : Grounded grammar.case grammar.elements)
    (sound : chain.Sound grammar budget tokens elements position) :
    chain.extent =
      Leaf.extent position (chain.children.map (Candidate.leaves grammar tokens)).flatten := by
  have forward := sound.chained.forall_mem fun _ _ _ _ sound => (sound.bounds grounded).2
  have start : chain.start.getD chain.stop =
      (Leaf.extent position
        (chain.children.map (Candidate.leaves grammar tokens)).flatten).start := by
    have computed := MatchSpan.find?_start_eq_firstStart grammar.elements tokens _ forward position
    rw [(sound.chained.reads grounded).firstStart_eq grounded, List.map_map] at computed
    rw [sound.start_eq]
    cases found : chain.children.find? fun child => !child.isEmpty with
    | some first =>
      rw [found] at computed
      exact computed
    | none =>
      rw [found] at computed
      rw [sound.chained.stop_eq_of_find?_eq_none grounded found]
      exact computed
  have consumed : chain.consumed =
      (Leaf.extent position
        (chain.children.map (Candidate.leaves grammar tokens)).flatten).consumed :=
    sound.consumed_eq.trans (congrArg Extent.consumed (sound.chained.spanOf_eq grounded))
  have stops := (sound.ordered grounded).extent_stop
  calc
    chain.extent = ⟨chain.start.getD chain.stop, chain.stop, chain.consumed⟩ := rfl
    _ = Leaf.extent position (chain.children.map (Candidate.leaves grammar tokens)).flatten := by
      rw [start, consumed, ← stops]

/-- Turning a sound chain into a candidate keeps its extent. -/
theorem extent_toCandidate (grounded : Grounded grammar.case grammar.elements)
    (sound : chain.Sound grammar budget tokens elements position) (element : Nat) :
    (chain.toCandidate element position).extent = chain.extent := by
  rw [sound.extent_eq grounded, ← sound.chained.spanOf_eq grounded]
  rfl

end Chain.Sound

end

end Utterance

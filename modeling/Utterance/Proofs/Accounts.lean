import Mathlib.Data.List.Count
import Utterance.Proofs.Derivation

/-!
# Every token is covered or noise

A span accounts for the places from its start to its stop when each of them is covered by one of its
terminals or is noise inside it, once and not both (`MatchSpan.Accounted`). Noise is recorded where
two children that are not empty leave a gap, so a chain of spans accounts for what lies between its
ends when each of its spans does (`Chained.accounted`), and every derivation accounts for its
places. With the noise before and after its root, a tree accounts for all tokens
(`Derivation.accounts`).
-/
namespace Utterance

namespace MatchSpan

/-- The places that the terminals of a span cover, from left to right. -/
def coveredPlaces (span : MatchSpan) : List Nat :=
  span.leaves.flatMap fun leaf => places leaf.start leaf.stop

/-- Whether each place of a span is covered by a terminal or noise inside it. -/
def Accounted (span : MatchSpan) : Prop :=
  (span.coveredPlaces ++ span.innerNoise).Perm (places span.start span.stop)

/-- There is no place from one up to the same. -/
@[simp] theorem places_self (place : Nat) : places place place = [] := by
  simp [places]

/-- Places up to a middle and places from there on. -/
theorem places_append {start middle stop : Nat} (before : start ≤ middle) (after : middle ≤ stop) :
    places start middle ++ places middle stop = places start stop := by
  have middle_eq : middle = start + 1 * (middle - start) := by omega
  have width : stop - start = middle - start + (stop - middle) := by omega
  rw [places, places, places, width, ← List.range'_append]
  rw [← middle_eq]

/-- How often a place is among those from a start up to a stop. -/
theorem count_places (place start stop : Nat) :
    (places start stop).count place = if start ≤ place ∧ place < stop then 1 else 0 := by
  have member : place ∈ places start stop ↔ start ≤ place ∧ place < stop := by
    rw [places, List.mem_range'_1]
    omega
  have distinct : (places start stop).Nodup := List.nodup_range'
  rw [distinct.count]
  simp only [member]

/-- Noise inside several spans is that inside each in turn. -/
theorem innerNoiseOfAll_eq_flatMap (spans : List MatchSpan) :
    innerNoiseOfAll spans = spans.flatMap innerNoise := by
  induction spans with
  | nil => rfl
  | cons span rest hypothesis => rw [innerNoiseOfAll, hypothesis, List.flatMap_cons]

/-- Noise inside an element is between its children or inside them. -/
theorem innerNoise_around (elements : List Element) (element position stop : Nat)
    (children : List MatchSpan) :
    (around elements element position stop children).innerNoise =
      gaps none children ++ children.flatMap innerNoise := by
  rw [around, innerNoise, innerNoiseOfAll_eq_flatMap]

/-- An element covers the places that its children cover. -/
theorem coveredPlaces_around (elements : List Element) (element position stop : Nat)
    (children : List MatchSpan) :
    (around elements element position stop children).coveredPlaces =
      children.flatMap coveredPlaces := by
  rw [coveredPlaces, around, leaves, leavesOfAll_eq_flatMap, List.flatMap_assoc]
  rfl

/-- A terminal accounts for its places. -/
theorem accounted_ofTerminal (elements : List Element) (tokens : List Token)
    (element start stop : Nat) : (ofTerminal elements tokens element start stop).Accounted := by
  simp [Accounted, coveredPlaces, ofTerminal, leaves, innerNoise, innerNoiseOfAll]

/-- A span that is empty and accounts for its places covers none and has no noise. -/
theorem Accounted.eq_nil {span : MatchSpan} (accounted : span.Accounted)
    (empty : span.isEmpty = true) : span.coveredPlaces = [] ∧ span.innerNoise = [] := by
  have same : span.start = span.stop := beq_iff_eq.1 empty
  rw [Accounted, same, places_self] at accounted
  exact List.append_eq_nil_iff.1 accounted.eq_nil

/-- A span covers as many places as it consumes tokens. -/
theorem length_coveredPlaces (span : MatchSpan) : span.coveredPlaces.length = span.consumed := by
  rw [coveredPlaces, consumed]
  induction span.leaves with
  | nil => rfl
  | cons leaf rest hypothesis =>
    rw [List.flatMap_cons, List.length_append, hypothesis, places, List.length_range',
      List.map_cons, List.foldr_cons]

/-- A place is covered as often as there are terminals around it. -/
theorem count_coveredPlaces (span : MatchSpan) (place : Nat) :
    span.coveredPlaces.count place =
      span.leaves.countP fun leaf => leaf.start ≤ place && place < leaf.stop := by
  rw [coveredPlaces]
  induction span.leaves with
  | nil => rfl
  | cons leaf rest hypothesis =>
    rw [List.flatMap_cons, List.count_append, hypothesis, count_places, List.countP_cons]
    simp [Nat.add_comm]

end MatchSpan

section

variable {grammar : Grammar} {budget : SkipBudget} {tokens : List Token}
  {element position stop : Nat} {span : MatchSpan}

/-- A chain of spans that account for their places accounts for all places from where it is known to
start, which is its position or its first span that is not empty. -/
theorem Chained.accounted (grounded : Grounded grammar.case grammar.elements)
    {elements : List Nat} {spans : List MatchSpan} {previous : Option Nat}
    (chained : Chained (fun element position span stop =>
      Derivation grammar budget tokens element position span stop ∧ span.Accounted) elements
        position spans stop)
    (known : previous = none ∨ previous = some position) :
    (spans.flatMap MatchSpan.coveredPlaces ++
        (MatchSpan.gaps previous spans ++ spans.flatMap MatchSpan.innerNoise)).Perm
      (MatchSpan.places (previous.getD (MatchSpan.firstStart position spans)) stop) := by
  induction chained generalizing previous with
  | nil position =>
    rcases known with rfl | rfl <;> simp [MatchSpan.gaps, MatchSpan.firstStart]
  | @cons element position middle stop span elements spans first rest hypothesis =>
    obtain ⟨derivation, accounted⟩ := first
    have reads := derivation.reads grounded
    have ordered := reads.matched.ordered grounded
    obtain ⟨forward, hollow⟩ := reads.isEmpty_iff grounded
    have last := reads.stop_eq
    cases empty : span.isEmpty with
    | true =>
      have still := ordered.stop_eq_iff.2 (hollow.1 empty)
      rw [still] at hypothesis
      obtain ⟨nothing, quiet⟩ := accounted.eq_nil empty
      have start : MatchSpan.firstStart position (span :: spans) =
          MatchSpan.firstStart position spans := by
        simp [MatchSpan.firstStart, empty]
      rw [List.flatMap_cons, List.flatMap_cons, nothing, quiet, MatchSpan.gaps, if_pos empty, start]
      exact hypothesis known
    | false =>
      have after := ordered.bounds.1
      rw [← reads.start_eq] at after
      have onward : Chained (fun _ => Leaf.Ordered) elements middle (spans.map MatchSpan.covered)
          stop :=
        rest.map _ fun _ _ _ _ _ inside => (inside.1.reads grounded).matched.ordered grounded
      have following := hypothesis (Or.inr rfl)
      rw [Option.getD_some] at following
      have start : MatchSpan.firstStart position (span :: spans) = span.start := by
        simp [MatchSpan.firstStart, empty]
      have whole : (previous.elim [] fun stop => List.range' stop (span.start - stop)) ++
          (MatchSpan.places span.start middle ++ MatchSpan.places middle stop) =
            MatchSpan.places (previous.getD span.start) stop := by
        have reach := onward.ordered.le_stop
        rw [MatchSpan.places_append (by omega) reach]
        rcases known with rfl | rfl
        · rfl
        · exact MatchSpan.places_append after (by omega)
      rw [MatchSpan.Accounted, last] at accounted
      rw [start, ← whole, List.flatMap_cons, List.flatMap_cons, MatchSpan.gaps, empty, last]
      rw [List.perm_iff_count] at accounted following ⊢
      intro place
      have here := accounted place
      have there := following place
      simp only [List.count_append, Bool.false_eq_true, if_false] at here there ⊢
      omega

/-- Every derivation accounts for its places. -/
theorem Derivation.accounted (grounded : Grounded grammar.case grammar.elements)
    (derivation : Derivation grammar budget tokens element position span stop) :
    span.Accounted := by
  refine Derivation.induction (motive := fun _ _ span _ => span.Accounted) grounded ?_ ?_ derivation
  · intro element position start stop
    exact MatchSpan.accounted_ofTerminal _ _ _ _ _
  · intro element elements position spans stop chained
    rw [MatchSpan.Accounted, MatchSpan.innerNoise_around, MatchSpan.coveredPlaces_around]
    exact chained.accounted grounded (Or.inl rfl)

/-- The noise of a tree is the noise before, inside and after its root. -/
theorem ParseTree.noise_perm (tree : ParseTree) :
    tree.noise.Perm (tree.leadingNoise ++ tree.root.innerNoise ++ tree.trailingNoise) := by
  refine (List.mergeSort_perm _ _).trans ?_
  exact ((List.mergeSort_perm _ _).append_left _).append_right _

/-- The tree around a derivation accounts for all tokens. -/
theorem Derivation.accounts (grounded : Grounded grammar.case grammar.elements)
    (derivation : Derivation grammar budget tokens element position span stop)
    (inside : position ≤ tokens.length) :
    (span.coveredPlaces ++ (ParseTree.ofRoot span tokens).noise).Perm
      (List.range tokens.length) := by
  have reads := derivation.reads grounded
  have forward := (reads.isEmpty_iff grounded).1
  have within := reads.matched.stop_le grounded
  have last := reads.stop_eq
  have accounted := derivation.accounted grounded
  refine ((ParseTree.noise_perm _).append_left _).trans ?_
  unfold ParseTree.ofRoot
  cases empty : span.isEmpty with
  | true =>
    obtain ⟨nothing, quiet⟩ := accounted.eq_nil empty
    simp [nothing, quiet]
  | false =>
    have whole : MatchSpan.places 0 span.start ++ (MatchSpan.places span.start span.stop ++
        MatchSpan.places span.stop tokens.length) = List.range tokens.length := by
      rw [MatchSpan.places_append forward (by omega),
        MatchSpan.places_append (Nat.zero_le _) (by omega), List.range_eq_range']
      rfl
    have before : List.range span.start = MatchSpan.places 0 span.start := List.range_eq_range'
    rw [← whole]
    rw [MatchSpan.Accounted, List.perm_iff_count] at accounted
    rw [List.perm_iff_count]
    intro place
    have here := accounted place
    simp only [Bool.false_eq_true, if_false, before, List.count_append] at here ⊢
    omega

end

/-- Words at the places from a start up to a stop. -/
theorem filterMap_places (tokens : List Token) (start stop : Nat) :
    ((MatchSpan.places start stop).filterMap fun place => tokens[place]?.map (·.text)) =
      ((tokens.drop start).take (stop - start)).map (·.text) := by
  rw [MatchSpan.places]
  generalize stop - start = width
  induction width generalizing start with
  | zero => rfl
  | succ width hypothesis =>
    rw [List.range'_succ, List.filterMap_cons, hypothesis]
    cases found : tokens[start]? with
    | none =>
      have beyond := List.getElem?_eq_none_iff.1 found
      simp [List.drop_eq_nil_of_le beyond, List.drop_eq_nil_of_le (Nat.le_succ_of_le beyond)]
    | some token =>
      obtain ⟨less, rfl⟩ := List.getElem?_eq_some_iff.1 found
      rw [List.drop_eq_getElem_cons less]
      rfl

end Utterance

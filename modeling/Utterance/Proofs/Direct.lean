import Utterance.Proofs.Memory

/-!
# The steps of a search, spelled out

A search that remembers nothing asks for the candidates of children and always gets the same. What
its steps make of these answers can then be written down: `Search.grow` extends chains by the
answers for an element, a sequence grows chains child after child, and a repetition has a level of
chains for each number of occurrences (`Search.rise`). The levels that a repetition tries are those
up to its bound, or to the number of tokens that are left; any further ones are empty, so how many
are tried does not matter (`Search.run_repetitionStep`).
-/
namespace Utterance

/-- Items are offered after items. -/
theorem offerAll_flatMap {α β : Type} (extent : α → Extent) (held : List α) (sources : List β)
    (items : β → List α) :
    offerAll extent held (sources.flatMap items) =
      sources.foldl (fun found source => offerAll extent found (items source)) held :=
  List.foldl_flatMap

/-- Matches of a choice in the order of its kind. -/
def ChoiceOrder.arrange (found : List Candidate) : ChoiceOrder → List Candidate
  | .declared => found
  | .longest => found.mergeSort fun left right => right.stop ≤ left.stop

namespace Search

variable {answer : Nat → Nat → List Candidate} {element inner position least : Nat}

/-- The chains that grow from given ones by the answers for an element. -/
def grow (answer : Nat → Nat → List Candidate) (child : Nat) (keep : Chain → Candidate → Bool)
    (chains : List Chain) : List Chain :=
  offerAll Chain.extent [] (chains.flatMap fun chain =>
    ((answer child chain.stop).filter (keep chain)).map chain.extend)

/-- The chains that grow from given ones through elements in order. -/
def thread (answer : Nat → Nat → List Candidate) (children : List Nat) (chains : List Chain) :
    List Chain :=
  children.foldl (fun chains child => grow answer child (fun _ _ => true) chains) chains

/-- The chains of some number of occurrences of an element. -/
def rise (answer : Nat → Nat → List Candidate) (inner least position : Nat) : Nat → List Chain
  | 0 => [.empty position]
  | count + 1 => grow answer inner (advances least (count + 1))
      (rise answer inner least position count)

/-- Extending chains grows them. -/
theorem run_extendChains (answer : Nat → Nat → List Candidate) (child : Nat)
    (keep : Chain → Candidate → Bool) (chains : List Chain) :
    (extendChains (told answer) child keep chains).run = grow answer child keep chains := by
  rw [grow, offerAll_flatMap, List.foldl_eq_foldlM]
  rfl

/-- Nothing grows from no chains. -/
@[simp] theorem grow_nil (answer : Nat → Nat → List Candidate) (child : Nat)
    (keep : Chain → Candidate → Bool) : grow answer child keep [] = [] := rfl

/-- What grows from chains is one of them with one more candidate. -/
theorem exists_of_mem_grow {child : Nat} {keep : Chain → Candidate → Bool} {chains : List Chain}
    {grown : Chain} (member : grown ∈ grow answer child keep chains) :
    ∃ chain ∈ chains, ∃ candidate ∈ answer child chain.stop,
      keep chain candidate = true ∧ grown = chain.extend candidate := by
  have listed := forall_mem_offerAll (fun item offered => offered) grown member
  obtain ⟨chain, before, extended⟩ := List.mem_flatMap.1 listed
  obtain ⟨candidate, passed, rfl⟩ := List.mem_map.1 extended
  obtain ⟨inside, kept⟩ := List.mem_filter.1 passed
  exact ⟨chain, before, candidate, inside, kept, rfl⟩

/-- A sequence grows chains child after child. -/
theorem run_sequenceStep (answer : Nat → Nat → List Candidate) (element : Nat)
    (children : List Nat) (position : Nat) :
    (sequenceStep (told answer) element children position).run =
      (thread answer children [.empty position]).map (Chain.toCandidate element position) := by
  simp only [thread, ← run_extendChains]
  rw [List.foldl_eq_foldlM]
  rfl

/-- A choice offers the answers for its alternatives in turn. -/
theorem run_choiceStep (answer : Nat → Nat → List Candidate) (order : ChoiceOrder) (element : Nat)
    (children : List Nat) (position : Nat) :
    (choiceStep order (told answer) element children position).run =
      order.arrange (offerAll Candidate.extent [] (children.flatMap fun child =>
        (answer child position).map fun candidate => .node element position [candidate])) := by
  rw [offerAll_flatMap, List.foldl_eq_foldlM]
  rfl

/-- The candidates of an optional element, given those of its child. -/
def withEmpty (element position : Nat) (candidates : List Candidate) : List Candidate :=
  let found := candidates.map fun candidate => Candidate.node element position [candidate]
  if found.any (·.stop == position) then found else found ++ [.node element position []]

/-- The levels up to a number of occurrences, the highest first. -/
def climb (answer : Nat → Nat → List Candidate) (inner least position last : Nat) :
    List (List Chain) :=
  (List.range (last + 1)).reverse.map (rise answer inner least position)

/-- One more level stands on those below. -/
theorem climb_succ (answer : Nat → Nat → List Candidate) (inner least position last : Nat) :
    climb answer inner least position (last + 1) =
      rise answer inner least position (last + 1) :: climb answer inner least position last := by
  rw [climb, List.range_succ, List.reverse_append]
  rfl

/-- There is a level for each number of occurrences. -/
@[simp] theorem length_climb (answer : Nat → Nat → List Candidate)
    (inner least position last : Nat) :
    (climb answer inner least position last).length = last + 1 := by
  simp [climb]

/-- The chains of all numbers of occurrences from the least one up to a last one, the most first. -/
def reach (answer : Nat → Nat → List Candidate) (inner least position last : Nat) : List Chain :=
  ((List.range (last + 1)).reverse.filter (least ≤ ·)).flatMap (rise answer inner least position)

/-- The levels from the least number of occurrences on hold the chains of these numbers. -/
theorem flatten_take_climb (answer : Nat → Nat → List Candidate)
    (inner least position last : Nat) :
    ((climb answer inner least position last).take
      ((climb answer inner least position last).length - least)).flatten =
        reach answer inner least position last := by
  have counts : (List.range (last + 1)).reverse.take (last + 1 - least) =
      (List.range (last + 1)).reverse.filter (least ≤ ·) := by
    induction last with
    | zero =>
      rcases Nat.eq_zero_or_pos least with rfl | positive
      · rfl
      · simp [Nat.sub_eq_zero_of_le positive, Nat.ne_of_gt positive]
    | succ last hypothesis =>
      rw [List.range_succ, List.reverse_append, List.reverse_singleton, List.singleton_append]
      by_cases enough : least ≤ last + 1
      · rw [List.filter_cons_of_pos (by simpa using enough), Nat.succ_sub enough,
          List.take_succ_cons, hypothesis]
      · rw [List.filter_cons_of_neg (by simpa using enough), ← hypothesis,
          Nat.sub_eq_zero_of_le (by omega), Nat.sub_eq_zero_of_le (by omega), List.take_zero,
          List.take_zero]
  rw [length_climb, climb, ← List.map_take, counts, ← List.flatMap_def]
  rfl

/-- Levels that are empty add no chains. -/
theorem reach_eq_of_le {few many : Nat} (le : few ≤ many)
    (none : ∀ count, few < count → count ≤ many → rise answer inner least position count = []) :
    reach answer inner least position many = reach answer inner least position few := by
  induction le with
  | refl => rfl
  | @step many le hypothesis =>
    have top := none (many + 1) (Nat.lt_succ_of_le le) (Nat.le_refl _)
    rw [← hypothesis fun count more less => none count more (Nat.le_succ_of_le less), reach, reach,
      List.range_succ, List.reverse_append, List.reverse_singleton, List.singleton_append,
      List.filter_cons]
    split
    · rw [List.flatMap_cons, top, List.nil_append]
    · rfl

/-- Above an empty level all levels are empty. -/
theorem rise_eq_nil {few many : Nat} (le : few ≤ many)
    (none : rise answer inner least position few = []) :
    rise answer inner least position many = [] := by
  induction le with
  | refl => exact none
  | step le hypothesis => rw [rise, hypothesis, grow_nil]

/-- Levels are tried up to the bound, or until one is empty, or as many as are asked for. -/
theorem run_levels (answer : Nat → Nat → List Candidate) (inner least position : Nat)
    (most : Option Nat) (fuel : Nat) : ∀ count, (∀ bound, most = some bound → count ≤ bound) →
      ∃ last ≤ count + fuel, (levels (told answer) inner least most fuel
          (climb answer inner least position count)).run =
            climb answer inner least position last ∧
        (∀ bound, most = some bound → last ≤ bound) ∧
        (most = some last ∨ rise answer inner least position (last + 1) = [] ∨
          last = count + fuel) := by
  induction fuel with
  | zero => exact fun count few => ⟨count, Nat.le_refl _, rfl, few, Or.inr (Or.inr rfl)⟩
  | succ fuel hypothesis =>
    intro count few
    rw [levels, length_climb]
    by_cases many : most.any (· < count + 1) = true
    · rw [if_pos many]
      obtain ⟨bound, rfl, less⟩ := (Option.any_eq_true _ _).1 many
      have allowed := few bound rfl
      rw [decide_eq_true_eq] at less
      exact ⟨count, Nat.le_add_right _ _, rfl, few, Or.inl (congrArg some (by omega))⟩
    · rw [if_neg many]
      have next : (extendChains (told answer) inner (fun chain candidate =>
          !(candidate.stop == chain.stop && least < count + 1))
          ((climb answer inner least position count).headD [])).run =
            rise answer inner least position (count + 1) := by
        rw [run_extendChains]
        cases count with
        | zero => rfl
        | succ count =>
          rw [climb_succ]
          rfl
      rw [Id.run_bind, next]
      by_cases stuck : rise answer inner least position (count + 1) = []
      · rw [stuck, List.isEmpty_nil, if_pos rfl]
        exact ⟨count, Nat.le_add_right _ _, rfl, few, Or.inr (Or.inl stuck)⟩
      · rw [if_neg (by simpa using stuck), ← climb_succ]
        have further : ∀ bound, most = some bound → count + 1 ≤ bound := by
          rintro bound rfl
          simpa using many
        obtain ⟨last, within, levels, allowed, ended⟩ := hypothesis (count + 1) further
        refine ⟨last, by omega, levels, allowed, ended.imp_right (Or.imp_right fun tried => ?_)⟩
        omega

/-- A repetition offers the chains of all numbers of occurrences from the least one up to a last
one: its bound, or the one above which no chain grows, or the highest that is tried. -/
theorem exists_run_repetitionStep {search : Search} {min : Nat}
    (minimum : least = if elementNullable search.elements inner then 0 else min)
    (max : Option Nat) (answer : Nat → Nat → List Candidate) (element position : Nat) :
    ∃ last ≤ search.length - position + 1,
      (repetitionStep search (told answer) element inner min max position).run =
        (offerAll Chain.extent [] (reach answer inner least position last)).map
          (Chain.toCandidate element position) ∧
      (∀ bound, max = some bound → last ≤ bound) ∧
      (max = some last ∨ rise answer inner least position (last + 1) = [] ∨
        last = search.length - position + 1) := by
  obtain ⟨last, within, levels, few, ended⟩ := run_levels answer inner least position max
    (search.length - position + 1) 0 fun _ _ => Nat.zero_le _
  rw [Nat.zero_add] at within ended
  refine ⟨last, within, ?_, few, ended⟩
  rw [repetitionStep, ← minimum, Id.run_bind, ← flatten_take_climb, ← levels]
  rfl

/-- A repetition offers the chains of all numbers of occurrences from the least one up to any last
one that its bound allows, if that is the bound or no chain has more occurrences. -/
theorem run_repetitionStep {search : Search} {min last : Nat} {max : Option Nat}
    (minimum : least = if elementNullable search.elements inner then 0 else min)
    (few : ∀ bound, max = some bound → last ≤ bound)
    (enough : max = some last ∨ search.length - position ≤ last)
    (short : ∀ count, search.length - position < count →
      rise answer inner least position count = []) (element : Nat) :
    (repetitionStep search (told answer) element inner min max position).run =
      (offerAll Chain.extent [] (reach answer inner least position last)).map
        (Chain.toCandidate element position) := by
  obtain ⟨final, -, run, allowed, ended⟩ :=
    exists_run_repetitionStep minimum max answer element position
  have same : reach answer inner least position final = reach answer inner least position last := by
    rcases Nat.le_total final last with lower | higher
    · refine (reach_eq_of_le lower fun count more less => ?_).symm
      rcases ended with bound | stuck | tried
      · have within := few final bound
        omega
      · exact rise_eq_nil more stuck
      · exact short count (by omega)
    · refine reach_eq_of_le higher fun count more less => ?_
      rcases enough with bound | all
      · have within := allowed last bound
        omega
      · exact short count (by omega)
  rw [run, same]

section

variable {grammar : Grammar} {options : MatchOptions} {tokens : List Token}

/-- Without memory the step of an element gets what is found for its children. -/
theorem afresh_eq_step (grounded : Grounded grammar.case grammar.elements)
    (element position : Nat) :
    (Search.of grammar options tokens).afresh element position =
      ((Search.of grammar options tokens).step (told (Search.of grammar options tokens).afresh)
        element position).run :=
  (run_step_afresh (fun _ _ present _ member => grounded.child_lt present member) element
    position).symm

/-- For an element that is not there nothing is found. -/
theorem afresh_absent (grounded : Grounded grammar.case grammar.elements)
    (missing : kindOf? grammar.elements element = none) (position : Nat) :
    (Search.of grammar options tokens).afresh element position = [] := by
  have kind : grammar.elements[element]?.map Element.kind = none := missing
  rw [afresh_eq_step grounded, step, of_elements, kind]
  rfl

/-- For a terminal its matches are found. -/
theorem afresh_terminal (grounded : Grounded grammar.case grammar.elements) {kind : Kind}
    (present : kindOf? grammar.elements element = some kind) (direct : kind.isTerminal = true)
    (position : Nat) :
    (Search.of grammar options tokens).afresh element position =
      (Search.of grammar options tokens).terminals element kind position := by
  have known : grammar.elements[element]?.map Element.kind = some kind := present
  rw [afresh_eq_step grounded, step, of_elements, known]
  cases kind with
  | literals set => rfl
  | pattern matcher => rfl
  | sequence children => exact absurd direct (by simp [Kind.isTerminal])
  | choice children => exact absurd direct (by simp [Kind.isTerminal])
  | optional inner => exact absurd direct (by simp [Kind.isTerminal])
  | repetition inner min max => exact absurd direct (by simp [Kind.isTerminal])

/-- For a sequence chains are found that grow child after child. -/
theorem afresh_sequence (grounded : Grounded grammar.case grammar.elements) {children : List Nat}
    (present : kindOf? grammar.elements element = some (.sequence children)) (position : Nat) :
    (Search.of grammar options tokens).afresh element position =
      (thread (Search.of grammar options tokens).afresh children [.empty position]).map
        (Chain.toCandidate element position) := by
  have kind : grammar.elements[element]?.map Element.kind = some (.sequence children) := present
  rw [afresh_eq_step grounded, step, of_elements, kind]
  exact run_sequenceStep _ element children position

/-- For a choice the candidates of its alternatives are found. -/
theorem afresh_choice (grounded : Grounded grammar.case grammar.elements) {children : List Nat}
    (present : kindOf? grammar.elements element = some (.choice children)) (position : Nat) :
    (Search.of grammar options tokens).afresh element position =
      options.choiceOrder.arrange (offerAll Candidate.extent [] (children.flatMap fun child =>
        ((Search.of grammar options tokens).afresh child position).map fun candidate =>
          .node element position [candidate])) := by
  have kind : grammar.elements[element]?.map Element.kind = some (.choice children) := present
  rw [afresh_eq_step grounded, step, of_elements, kind]
  exact run_choiceStep _ options.choiceOrder element children position

/-- For an optional element the candidates of its child are found, and an empty one. -/
theorem afresh_optional (grounded : Grounded grammar.case grammar.elements)
    (present : kindOf? grammar.elements element = some (.optional inner)) (position : Nat) :
    (Search.of grammar options tokens).afresh element position =
      withEmpty element position ((Search.of grammar options tokens).afresh inner position) := by
  have kind : grammar.elements[element]?.map Element.kind = some (.optional inner) := present
  rw [afresh_eq_step grounded, step, of_elements, kind]
  rfl

/-- For a repetition chains of occurrences are found, the most occurrences first. -/
theorem afresh_repetition (grounded : Grounded grammar.case grammar.elements) {min last : Nat}
    {max : Option Nat}
    (present : kindOf? grammar.elements element = some (.repetition inner min max))
    (minimum : least = if elementNullable grammar.elements inner then 0 else min)
    (few : ∀ bound, max = some bound → last ≤ bound)
    (enough : max = some last ∨ tokens.length - position ≤ last)
    (short : ∀ count, tokens.length - position < count →
      rise (Search.of grammar options tokens).afresh inner least position count = []) :
    (Search.of grammar options tokens).afresh element position =
      (offerAll Chain.extent []
        (reach (Search.of grammar options tokens).afresh inner least position last)).map
          (Chain.toCandidate element position) := by
  have kind : grammar.elements[element]?.map Element.kind = some (.repetition inner min max) :=
    present
  rw [afresh_eq_step grounded, step, of_elements, kind]
  rw [← of_length grammar options tokens] at enough short
  exact run_repetitionStep minimum few enough short element

end

end Search

end Utterance

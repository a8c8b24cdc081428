import Mathlib.Logic.Function.Basic
import Utterance.Proofs.Memory

/-!
# Searching elements in another order

The places of elements are names that a search gives to them: it looks elements up by their place,
remembers answers under it and writes it into candidates, and does nothing else with it. When
elements are renumbered, by a map that never brings two places together (`Renumbered`), everything
that a search does is renumbered with them. Two searches run side by side, and at every point the
second has the candidates and the memory of the first, renumbered (`Turns`). So it is cut short
where the first is, whatever the limit on memory is, and finds the same roots in the same order
(`Search.rootStep_turns`).
-/
namespace Utterance

/-- The kind with its children renumbered. -/
def Kind.renumber (shift : Nat → Nat) : Kind → Kind
  | .literals set => .literals set
  | .pattern matcher => .pattern matcher
  | .sequence children => .sequence (children.map shift)
  | .choice children => .choice (children.map shift)
  | .optional inner => .optional (shift inner)
  | .repetition inner min max => .repetition (shift inner) min max

/-- A kind that tokens match directly has no children to renumber. -/
@[simp] theorem Kind.isTerminal_renumber (shift : Nat → Nat) (kind : Kind) :
    (kind.renumber shift).isTerminal = kind.isTerminal := by
  cases kind <;> rfl

/-- The element with its children renumbered. -/
def Element.renumber (shift : Nat → Nat) (element : Element) : Element :=
  { element with kind := element.kind.renumber shift }

/-- Whether elements are those of another list, renumbered. -/
structure Renumbered (shift : Nat → Nat) (elements image : List Element) : Prop where
  /-- No two places are brought together. -/
  injective : Function.Injective shift
  /-- There are as many elements. -/
  length_eq : image.length = elements.length
  /-- The element of each place stands where the place is brought. -/
  getElem?_eq : ∀ id, image[shift id]? = elements[id]?.map (Element.renumber shift)

namespace Renumbered

variable {shift : Nat → Nat} {elements image : List Element}

/-- The kind of a place is the kind it was, renumbered. -/
theorem kindOf?_eq (renumbered : Renumbered shift elements image) (id : Nat) :
    kindOf? image (shift id) = (kindOf? elements id).map (Kind.renumber shift) := by
  rw [kindOf?, kindOf?, renumbered.getElem?_eq, Option.map_map, Option.map_map]
  rfl

/-- The name of a place stays. -/
theorem elementName_eq (renumbered : Renumbered shift elements image) (id : Nat) :
    elementName image (shift id) = elementName elements id := by
  rw [elementName, elementName, renumbered.getElem?_eq, Option.map_map]
  rfl

/-- The mark of a place stays. -/
theorem elementNullable_eq (renumbered : Renumbered shift elements image) (id : Nat) :
    elementNullable image (shift id) = elementNullable elements id := by
  rw [elementNullable, elementNullable, renumbered.getElem?_eq, Option.map_map]
  rfl

end Renumbered

namespace Candidate

mutual

/-- The candidate with its elements renumbered. -/
def renumber (shift : Nat → Nat) : Candidate → Candidate
  | ⟨element, extent, children⟩ => ⟨shift element, extent, renumberAll shift children⟩

/-- The candidates with their elements renumbered. -/
def renumberAll (shift : Nat → Nat) : List Candidate → List Candidate
  | [] => []
  | candidate :: rest => renumber shift candidate :: renumberAll shift rest

end

variable (shift : Nat → Nat)

/-- Candidates are renumbered each by itself. -/
theorem renumberAll_eq_map (candidates : List Candidate) :
    renumberAll shift candidates = candidates.map (renumber shift) := by
  induction candidates with
  | nil => rfl
  | cons candidate rest hypothesis => rw [renumberAll, hypothesis, List.map_cons]

variable (candidate : Candidate)

/-- The extent of a candidate stays. -/
@[simp] theorem renumber_extent : (candidate.renumber shift).extent = candidate.extent := by
  cases candidate
  rfl

/-- Where a candidate starts stays. -/
@[simp] theorem renumber_start : (candidate.renumber shift).start = candidate.start := by
  simp [start]

/-- Where a candidate stops stays. -/
@[simp] theorem renumber_stop : (candidate.renumber shift).stop = candidate.stop := by
  simp [stop]

/-- What a candidate consumes stays. -/
@[simp] theorem renumber_consumed : (candidate.renumber shift).consumed = candidate.consumed := by
  simp [consumed]

/-- A candidate is empty when it was. -/
@[simp] theorem renumber_isEmpty : (candidate.renumber shift).isEmpty = candidate.isEmpty := by
  simp [isEmpty]

/-- A match of a terminal is a match of the renumbered terminal. -/
@[simp] theorem renumber_terminal (element start stop : Nat) :
    (terminal element start stop).renumber shift = terminal (shift element) start stop := rfl

/-- The extent of consecutive matches stays. -/
@[simp] theorem spanOf_renumber (position : Nat) (children : List Candidate) :
    spanOf position (children.map (renumber shift)) = spanOf position children := by
  simp [spanOf, List.find?_map, Function.comp_def]

/-- A match made of matches is renumbered with them. -/
@[simp] theorem renumber_node (element position : Nat) (children : List Candidate) :
    (node element position children).renumber shift =
      node (shift element) position (children.map (renumber shift)) := by
  rw [node, renumber, renumberAll_eq_map, node, spanOf_renumber]

end Candidate

namespace Chain

/-- The chain with the elements of its matches renumbered. -/
def renumber (shift : Nat → Nat) (chain : Chain) : Chain :=
  { chain with children := chain.children.map (Candidate.renumber shift) }

variable (shift : Nat → Nat) (chain : Chain)

/-- The extent of a chain stays. -/
@[simp] theorem renumber_extent : (chain.renumber shift).extent = chain.extent := rfl

/-- Where a chain stops stays. -/
@[simp] theorem renumber_stop : (chain.renumber shift).stop = chain.stop := rfl

/-- The chain without matches has none to renumber. -/
@[simp] theorem renumber_empty (position : Nat) :
    (empty position).renumber shift = empty position := rfl

/-- A chain may be renumbered before it is extended or after. -/
@[simp] theorem renumber_extend (candidate : Candidate) :
    (chain.extend candidate).renumber shift =
      (chain.renumber shift).extend (candidate.renumber shift) := by
  simp [renumber, extend]

/-- A chain may be renumbered before it is made a match or after. -/
@[simp] theorem renumber_toCandidate (element position : Nat) :
    (chain.toCandidate element position).renumber shift =
      (chain.renumber shift).toCandidate (shift element) position :=
  Candidate.renumber_node shift element position chain.children

end Chain

/-- Items may be changed before they are offered or after, if their extents stay. -/
theorem offerAll_map_of_extent {α : Type} {extent : α → Extent} {change : α → α}
    (same : ∀ item, extent (change item) = extent item) (held items : List α) :
    offerAll extent (held.map change) (items.map change) =
      (offerAll extent held items).map change := by
  refine offerAll_turn (fun _ => True) (fun item other _ _ => ?_) (by simp) (by simp)
  constructor
  · rw [same, same]
  · intro _
    rw [same, same]

namespace Memo

/-- The memory with all elements renumbered. -/
def renumber (shift : Nat → Nat) (memo : Memo) : Memo where
  entries := memo.entries.map fun entry =>
    ((shift entry.1.1, entry.1.2), entry.2.map (Candidate.renumber shift))
  exhausted := memo.exhausted

/-- What is remembered for a pair is what was remembered for it. -/
theorem find?_renumber {shift : Nat → Nat} (injective : Function.Injective shift) (memo : Memo)
    (element position : Nat) :
    (memo.renumber shift).find? (shift element) position =
      (memo.find? element position).map (List.map (Candidate.renumber shift)) := by
  rw [find?, find?, renumber]
  induction memo.entries with
  | nil => rfl
  | cons entry rest hypothesis =>
    obtain ⟨⟨other, before⟩, found⟩ := entry
    have same : ((shift element, position) == (shift other, before)) =
        ((element, position) == (other, before)) := by
      rw [Bool.eq_iff_iff, beq_iff_eq, beq_iff_eq, Prod.mk.injEq, Prod.mk.injEq, injective.eq_iff]
    rw [List.map_cons, List.lookup_cons, List.lookup_cons, same, hypothesis]
    split <;> rfl

/-- A memory is full when it was. -/
theorem isFull_renumber (shift : Nat → Nat) (memo : Memo) (limit : Option Nat) :
    (memo.renumber shift).isFull limit = memo.isFull limit := by
  have size : (memo.renumber shift).size = memo.size := List.length_map _
  rw [isFull, isFull, size]

end Memo

/-- Whether a computation, from a memory that is renumbered, gives what another one gives from the
memory as it was, turned, and leaves its memory, renumbered. -/
def Turns {α β : Type} (shift : Nat → Nat) (turn : α → β) (program : StateM Memo α)
    (image : StateM Memo β) : Prop :=
  ∀ memo, image.run (memo.renumber shift) =
    (turn (program.run memo).1, (program.run memo).2.renumber shift)

namespace Turns

variable {α β γ δ : Type} {shift : Nat → Nat} {turn : α → β} {program : StateM Memo α}
  {image : StateM Memo β}

/-- A value is turned. -/
theorem pure {value : α} {other : β} (turned : other = turn value) :
    Turns shift turn (Pure.pure value) (Pure.pure other) := by
  intro memo
  rw [turned]
  rfl

/-- A computation may go on with what another one gives. -/
theorem bind {next : α → StateM Memo γ} {follow : β → StateM Memo δ} {change : γ → δ}
    (first : Turns shift turn program image)
    (rest : ∀ value, Turns shift change (next value) (follow (turn value))) :
    Turns shift change (program >>= next) (image >>= follow) := by
  intro memo
  rw [StateT.run_bind, StateT.run_bind, first memo]
  exact rest _ _

/-- A loop is turned if each round is, on items that are moved. -/
theorem foldlM {round : γ → α → StateM Memo γ} {follow : δ → β → StateM Memo δ} {change : γ → δ}
    (move : α → β) {items : List α}
    (each : ∀ value, ∀ item ∈ items,
      Turns shift change (round value item) (follow (change value) (move item))) (first : γ) :
    Turns shift change (items.foldlM round first)
      ((items.map move).foldlM follow (change first)) := by
  induction items generalizing first with
  | nil => exact .pure rfl
  | cons item rest hypothesis =>
    rw [List.map_cons, List.foldlM_cons, List.foldlM_cons]
    refine (each first item List.mem_cons_self).bind fun value => ?_
    exact hypothesis (fun value other member => each value other (List.mem_cons_of_mem _ member))
      value

/-- A loop over the same items is turned if each round is. -/
theorem foldlM_self {round : γ → α → StateM Memo γ} {follow : δ → α → StateM Memo δ}
    {change : γ → δ} {items : List α}
    (each : ∀ value, ∀ item ∈ items,
      Turns shift change (round value item) (follow (change value) item)) (first : γ) :
    Turns shift change (items.foldlM round first) (items.foldlM follow (change first)) := by
  have turned := Turns.foldlM id each first
  rwa [List.map_id] at turned

end Turns

namespace Search

variable {shift : Nat → Nat} {search : Search} {others : List Element}
  {solve answer : Nat → Nat → StateM Memo (List Candidate)}

/-- Whether the answers of a way to solve an element are those of another one, renumbered, from
every position. -/
def Turned (shift : Nat → Nat) (solve answer : Nat → Nat → StateM Memo (List Candidate))
    (element : Nat) : Prop :=
  ∀ position, Turns shift (List.map (Candidate.renumber shift)) (solve element position)
    (answer (shift element) position)

/-- Chains are extended by renumbered candidates to renumbered chains, if the same candidates are
passed over. -/
theorem extendChains_turns {child : Nat} (asked : Turned shift solve answer child)
    {keep : Chain → Candidate → Bool}
    (same : ∀ chain candidate,
      keep (chain.renumber shift) (candidate.renumber shift) = keep chain candidate)
    (chains : List Chain) :
    Turns shift (List.map (Chain.renumber shift)) (extendChains solve child keep chains)
      (extendChains answer (shift child) keep (chains.map (Chain.renumber shift))) := by
  refine Turns.foldlM (Chain.renumber shift) (fun found chain _ => ?_) []
  refine (asked chain.stop).bind fun candidates => .pure ?_
  have items : ((candidates.map (Candidate.renumber shift)).filter
        (keep (chain.renumber shift))).map (chain.renumber shift).extend =
      ((candidates.filter (keep chain)).map chain.extend).map (Chain.renumber shift) := by
    rw [List.filter_map, List.map_map, List.map_map]
    have passes : candidates.filter (keep (chain.renumber shift) ∘ Candidate.renumber shift) =
        candidates.filter (keep chain) := List.filter_congr fun candidate _ => same chain candidate
    rw [passes]
    exact List.map_congr_left fun candidate _ => (Chain.renumber_extend shift chain candidate).symm
  rw [items]
  exact offerAll_map_of_extent (Chain.renumber_extent shift) _ _

/-- Chains are made matches before they are renumbered or after. -/
theorem map_toCandidate_renumber (shift : Nat → Nat) (chains : List Chain)
    (element position : Nat) :
    (chains.map (Chain.renumber shift)).map (Chain.toCandidate (shift element) position) =
      (chains.map (Chain.toCandidate element position)).map (Candidate.renumber shift) := by
  rw [List.map_map, List.map_map]
  exact List.map_congr_left fun chain _ =>
    (Chain.renumber_toCandidate shift chain element position).symm

/-- Candidates are put inside an element before they are renumbered or after. -/
theorem map_node_renumber (shift : Nat → Nat) (candidates : List Candidate)
    (element position : Nat) :
    ((candidates.map (Candidate.renumber shift)).map fun candidate =>
        Candidate.node (shift element) position [candidate]) =
      (candidates.map fun candidate => Candidate.node element position [candidate]).map
        (Candidate.renumber shift) := by
  rw [List.map_map, List.map_map]
  exact List.map_congr_left fun candidate _ =>
    (Candidate.renumber_node shift element position [candidate]).symm

/-- The matches of a terminal are renumbered. -/
theorem terminals_renumber (shift : Nat → Nat) (search : Search) (others : List Element)
    (element : Nat) (kind : Kind) (position : Nat) :
    { search with elements := others }.terminals (shift element) kind position =
      (search.terminals element kind position).map (Candidate.renumber shift) := by
  have items : ((search.starts position).flatMap fun start =>
        (search.terminalEnds kind start).map (Candidate.terminal (shift element) start)) =
      ((search.starts position).flatMap fun start =>
        (search.terminalEnds kind start).map (Candidate.terminal element start)).map
          (Candidate.renumber shift) := by
    rw [List.map_flatMap]
    refine List.flatMap_congr fun start _ => ?_
    rw [List.map_map]
    rfl
  rw [terminals, terminals, ← offerAll_map_of_extent (Candidate.renumber_extent shift), ← items]
  rfl

/-- A sequence is turned. -/
theorem sequenceStep_turns {children : List Nat}
    (asked : ∀ child ∈ children, Turned shift solve answer child) (element position : Nat) :
    Turns shift (List.map (Candidate.renumber shift))
      (sequenceStep solve element children position)
      (sequenceStep answer (shift element) (children.map shift) position) := by
  have loop : Turns shift (List.map (Chain.renumber shift))
      (children.foldlM (fun chains child => extendChains solve child (fun _ _ => true) chains)
        [.empty position])
      ((children.map shift).foldlM
        (fun chains child => extendChains answer child (fun _ _ => true) chains)
        ([Chain.empty position].map (Chain.renumber shift))) :=
    Turns.foldlM shift (fun chains child member =>
      extendChains_turns (asked child member) (fun _ _ => rfl) chains) _
  exact loop.bind fun chains => .pure (map_toCandidate_renumber shift chains element position)

/-- A choice is turned, in either order of its matches. -/
theorem choiceStep_turns {children : List Nat}
    (asked : ∀ child ∈ children, Turned shift solve answer child) (order : ChoiceOrder)
    (element position : Nat) :
    Turns shift (List.map (Candidate.renumber shift))
      (choiceStep order solve element children position)
      (choiceStep order answer (shift element) (children.map shift) position) := by
  have loop : Turns shift (List.map (Candidate.renumber shift))
      (children.foldlM (fun found child => do
        let candidates ← solve child position
        pure (offerAll Candidate.extent found
          (candidates.map fun candidate => .node element position [candidate]))) [])
      ((children.map shift).foldlM (fun found child => do
        let candidates ← answer child position
        pure (offerAll Candidate.extent found
          (candidates.map fun candidate => .node (shift element) position [candidate])))
        (List.map (Candidate.renumber shift) [])) := by
    refine Turns.foldlM shift (fun found child member => ?_) []
    refine (asked child member position).bind fun candidates => .pure ?_
    rw [map_node_renumber]
    exact offerAll_map_of_extent (Candidate.renumber_extent shift) _ _
  refine loop.bind fun found => .pure ?_
  cases order with
  | declared => rfl
  | longest => exact (List.map_mergeSort fun left _ right _ => by simp).symm

/-- An optional element is turned. -/
theorem optionalStep_turns {inner : Nat} (asked : Turned shift solve answer inner)
    (element position : Nat) :
    Turns shift (List.map (Candidate.renumber shift)) (optionalStep solve element inner position)
      (optionalStep answer (shift element) (shift inner) position) := by
  refine (asked position).bind fun candidates => .pure ?_
  simp only [map_node_renumber, List.any_map, Function.comp_def, Candidate.renumber_stop]
  rw [apply_ite (List.map (Candidate.renumber shift)), List.map_append, List.map_singleton,
    Candidate.renumber_node, List.map_nil]

/-- The levels of a repetition are turned. -/
theorem levels_turns {inner : Nat} (asked : Turned shift solve answer inner) (least : Nat)
    (most : Option Nat) (fuel : Nat) :
    ∀ found, Turns shift (List.map (List.map (Chain.renumber shift)))
      (levels solve inner least most fuel found)
      (levels answer (shift inner) least most fuel
        (found.map (List.map (Chain.renumber shift)))) := by
  induction fuel with
  | zero => exact fun found => .pure rfl
  | succ fuel hypothesis =>
    intro found
    have highest : (found.map (List.map (Chain.renumber shift))).headD [] =
        (found.headD []).map (Chain.renumber shift) := by cases found <;> rfl
    rw [levels, levels, List.length_map, highest]
    split
    · exact .pure rfl
    · refine (extendChains_turns asked ?_ _).bind fun next => ?_
      · intro chain candidate
        rw [Candidate.renumber_stop, Chain.renumber_stop]
      · rw [List.isEmpty_map]
        split
        · exact .pure rfl
        · exact hypothesis (next :: found)

/-- A repetition is turned. -/
theorem repetitionStep_turns (renumbered : Renumbered shift search.elements others) {inner : Nat}
    (asked : Turned shift solve answer inner) (element min : Nat) (max : Option Nat)
    (position : Nat) :
    Turns shift (List.map (Candidate.renumber shift))
      (search.repetitionStep solve element inner min max position)
      ({ search with elements := others }.repetitionStep answer (shift element) (shift inner) min
        max position) := by
  rw [repetitionStep, repetitionStep, renumbered.elementNullable_eq]
  refine (levels_turns asked _ max _ [[.empty position]]).bind fun found => .pure ?_
  rw [List.length_map, ← List.map_take, ← List.map_flatten, ← map_toCandidate_renumber,
    ← offerAll_map_of_extent (Chain.renumber_extent shift)]
  rfl

/-- The step of an element is turned into the step of the element it is brought to. -/
theorem step_turns (renumbered : Renumbered shift search.elements others)
    (asked : ∀ child, Turned shift solve answer child) (element : Nat) :
    Turned shift (search.step solve) ({ search with elements := others }.step answer) element := by
  intro position
  have kind := renumbered.kindOf?_eq element
  rw [kindOf?, kindOf?] at kind
  rw [step, step, kind]
  cases search.elements[element]?.map Element.kind with
  | none => exact .pure rfl
  | some kind =>
    cases kind with
    | literals set => exact .pure (terminals_renumber shift search others element _ position)
    | pattern matcher => exact .pure (terminals_renumber shift search others element _ position)
    | sequence children => exact sequenceStep_turns (fun child _ => asked child) element position
    | choice children =>
      exact choiceStep_turns (fun child _ => asked child) search.order element position
    | optional inner => exact optionalStep_turns (asked inner) element position
    | repetition inner min max =>
      exact repetitionStep_turns renumbered (asked inner) element min max position

/-- The search to a depth is turned, whatever the limit on memory is. -/
theorem solve_turns (renumbered : Renumbered shift search.elements others) (limit : Option Nat)
    (depth : Nat) : ∀ element,
      Turned shift (search.solve limit depth)
        ({ search with elements := others }.solve limit depth) element := by
  induction depth with
  | zero => exact fun element position => .pure rfl
  | succ depth hypothesis =>
    intro element position memo
    have step := step_turns renumbered hypothesis element position
    unfold solve
    simp only [StateT.run_bind, StateT.run_get, pure_bind,
      Memo.find?_renumber renumbered.injective, Memo.isFull_renumber]
    cases memo.find? element position with
    | some found => rfl
    | none =>
      simp only [Option.map_none]
      split
      · rfl
      · simp only [StateT.run_bind, step memo]
        rfl

/-- The search is turned, whatever the limit on memory is. -/
theorem candidates_turns (renumbered : Renumbered shift search.elements others)
    (limit : Option Nat) (element : Nat) :
    Turned shift (search.candidates limit)
      ({ search with elements := others }.candidates limit) element := by
  intro position
  rw [candidates, candidates, renumbered.length_eq]
  exact solve_turns renumbered limit search.elements.length element position

/-- Roots are put in order before they are renumbered or after. -/
theorem arrange_renumber (shift : Nat → Nat) (found : List Candidate) (mode : ParseMode) :
    mode.arrange (found.map (Candidate.renumber shift)) =
      (mode.arrange found).map (Candidate.renumber shift) := by
  cases mode with
  | first => rfl
  | widest => exact (List.map_mergeSort fun left _ right _ => by simp).symm

/-- The search for the start symbol is turned. -/
theorem rootStep_turns (search : Search) (others : List Element) {root : Nat}
    (asked : Turned shift solve answer root) (mode : ParseMode) :
    Turns shift (List.map (Candidate.renumber shift)) (search.rootStep solve mode root)
      ({ search with elements := others }.rootStep answer mode (shift root)) := by
  refine (asked 0).bind fun first => ?_
  cases search.budget with
  | unlimited => exact .pure (arrange_renumber shift first mode)
  | limited count =>
    refine Turns.bind (Turns.foldlM_self (fun found position _ => ?_) first) fun found =>
      .pure (arrange_renumber shift found mode)
    refine (asked position).bind fun candidates => .pure ?_
    rw [List.filter_map, ← offerAll_map_of_extent (Candidate.renumber_extent shift)]
    simp only [Function.comp_def, Candidate.renumber_isEmpty]

end Search

end Utterance

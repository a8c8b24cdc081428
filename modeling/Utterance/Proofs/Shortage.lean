import Utterance.Proofs.Capacity
import Utterance.Proofs.Direct

/-!
# What a lack of memory loses

A search that runs out of memory gives no candidates for the pairs that it leaves unsolved. What
its steps make of fewer candidates stops at fewer places: from answers that stop wherever others do,
a step makes candidates that stop wherever those made of the others do (`Search.step_keepsStops`),
although neither the candidates nor their order need be the same.

Two searches with different limits do the same until the smaller limit is met. From then on the
memory of one does not change and that of the other keeps what they had in common (`Trails`). Since
the answers of both can be read off their memories, the search with the smaller limit stops nowhere
else than the other one, at any depth.
-/
namespace Utterance

/-- Whether items stop wherever some other items do. -/
def KeepsStops {α : Type} (extent : α → Extent) (fewer more : List α) : Prop :=
  ∀ item ∈ fewer, ∃ other ∈ more, (extent other).stop = (extent item).stop

namespace KeepsStops

variable {α β : Type} {extent : α → Extent} {image : β → Extent} {fewer more : List α}

/-- Nothing stops nowhere. -/
theorem nil (extent : α → Extent) (more : List α) : KeepsStops extent [] more := by
  simp [KeepsStops]

/-- Items stop where they do. -/
theorem refl (extent : α → Extent) (items : List α) : KeepsStops extent items items :=
  fun item member => ⟨item, member, rfl⟩

/-- Of items, some stop where all do. -/
theorem of_subset (extent : α → Extent) (subset : fewer ⊆ more) : KeepsStops extent fewer more :=
  fun item member => ⟨item, subset member, rfl⟩

/-- Stops are kept from one list to another to a third. -/
theorem trans {most : List α} (first : KeepsStops extent fewer more)
    (second : KeepsStops extent more most) : KeepsStops extent fewer most := by
  intro item member
  obtain ⟨other, inside, same⟩ := first item member
  obtain ⟨third, found, level⟩ := second other inside
  exact ⟨third, found, level.trans same⟩

/-- What is made of items stops wherever what is made of others does, if it stops with the items. -/
theorem map {make : α → β} (keeps : KeepsStops extent fewer more)
    (still : ∀ item, (image (make item)).stop = (extent item).stop) :
    KeepsStops image (fewer.map make) (more.map make) := by
  intro made member
  obtain ⟨item, inside, rfl⟩ := List.mem_map.1 member
  obtain ⟨other, found, same⟩ := keeps item inside
  exact ⟨make other, List.mem_map_of_mem found, by rw [still, still, same]⟩

/-- Items that come of sources keep the stops source by source. -/
theorem flatMap {sources : List β} {first second : β → List α}
    (each : ∀ source ∈ sources, KeepsStops extent (first source) (second source)) :
    KeepsStops extent (sources.flatMap first) (sources.flatMap second) := by
  intro item member
  obtain ⟨source, listed, inside⟩ := List.mem_flatMap.1 member
  obtain ⟨other, found, same⟩ := each source listed item inside
  exact ⟨other, List.mem_flatMap.2 ⟨source, listed, found⟩, same⟩

/-- Each item that is held or offered has one that is held after the offers and stops where it
does. -/
theorem exists_mem_offerAll {held items : List α} {item : α}
    (offered : item ∈ held ∨ item ∈ items) :
    ∃ other ∈ Utterance.offerAll extent held items, (extent other).stop = (extent item).stop := by
  induction items generalizing held item with
  | nil => exact ⟨item, offered.resolve_right (by simp), rfl⟩
  | cons next rest hypothesis =>
    have first : item = next ∨ item ∈ held → ∃ other ∈ Utterance.offerAll extent held
        (next :: rest), (extent other).stop = (extent item).stop := by
      intro now
      obtain ⟨better, kept, level, -⟩ : ∃ better ∈ offer extent next held,
          (extent better).stop = (extent item).stop ∧
            (extent better).AtLeast (extent item) := best_of_offer next now
      obtain ⟨other, found, same⟩ := hypothesis (Or.inl kept)
      exact ⟨other, found, same.trans level⟩
    rcases offered with before | listed
    · exact first (Or.inr before)
    · rcases List.mem_cons.1 listed with same | later
      · exact first (Or.inl same)
      · exact hypothesis (Or.inr later)

/-- Offers keep the stops. -/
theorem offerAll {fewerHeld moreHeld : List α} (held : KeepsStops extent fewerHeld moreHeld)
    (keeps : KeepsStops extent fewer more) :
    KeepsStops extent (Utterance.offerAll extent fewerHeld fewer)
      (Utterance.offerAll extent moreHeld more) := by
  intro item member
  rcases mem_of_mem_offerAll member with before | listed
  · obtain ⟨other, inside, same⟩ := held item before
    obtain ⟨kept, found, level⟩ := exists_mem_offerAll (Or.inl inside)
    exact ⟨kept, found, level.trans same⟩
  · obtain ⟨other, inside, same⟩ := keeps item listed
    obtain ⟨kept, found, level⟩ := exists_mem_offerAll (Or.inr inside)
    exact ⟨kept, found, level.trans same⟩

end KeepsStops

/-- Whether a chain that was searched for from a position stops with its last candidate. -/
def Chain.Closed (position : Nat) (chain : Chain) : Prop :=
  (chain.children.getLast?.map Candidate.stop).getD position = chain.stop

namespace Search

variable {fewer more : Nat → Nat → List Candidate} {element inner position least : Nat}

/-- Chains that grow stop with their last candidates. -/
theorem closed_of_mem_grow {answer : Nat → Nat → List Candidate} {child : Nat}
    {keep : Chain → Candidate → Bool} {chains : List Chain} {chain : Chain}
    (member : chain ∈ grow answer child keep chains) (position : Nat) :
    chain.Closed position := by
  obtain ⟨before, -, candidate, -, -, rfl⟩ := exists_of_mem_grow member
  simp [Chain.Closed, Chain.extend]

/-- The chain without candidates stops where it is. -/
theorem closed_empty (position : Nat) : (Chain.empty position).Closed position := rfl

/-- Chains through elements stop with their last candidates. -/
theorem closed_of_mem_thread {answer : Nat → Nat → List Candidate} {children : List Nat}
    {chains : List Chain} (closed : ∀ chain ∈ chains, chain.Closed position) :
    ∀ chain ∈ thread answer children chains, chain.Closed position := by
  induction children generalizing chains with
  | nil => exact closed
  | cons child rest hypothesis => exact hypothesis fun chain member => closed_of_mem_grow member _

/-- Chains of occurrences stop with their last candidates. -/
theorem closed_of_mem_reach {answer : Nat → Nat → List Candidate} {last : Nat} {chain : Chain}
    (member : chain ∈ reach answer inner least position last) : chain.Closed position := by
  obtain ⟨count, -, inside⟩ := List.mem_flatMap.1 member
  cases count with
  | zero =>
    rw [List.mem_singleton.1 inside]
    exact closed_empty position
  | succ count => exact closed_of_mem_grow inside position

/-- Chains as candidates stop where the chains do. -/
theorem keepsStops_toCandidate {left right : List Chain}
    (keeps : KeepsStops Chain.extent left right)
    (leftClosed : ∀ chain ∈ left, chain.Closed position)
    (rightClosed : ∀ chain ∈ right, chain.Closed position) (element : Nat) :
    KeepsStops Candidate.extent (left.map (Chain.toCandidate element position))
      (right.map (Chain.toCandidate element position)) := by
  intro item member
  obtain ⟨chain, inside, rfl⟩ := List.mem_map.1 member
  obtain ⟨other, found, same⟩ := keeps chain inside
  refine ⟨_, List.mem_map_of_mem found, ?_⟩
  exact (rightClosed other found).trans (same.trans (leftClosed chain inside).symm)

/-- Chains that grow by answers that stop at more places stop at more places. -/
theorem grow_keepsStops {child : Nat} {keep : Chain → Candidate → Bool} {left right : List Chain}
    (answers : ∀ next, KeepsStops Candidate.extent (fewer child next) (more child next))
    (kept : ∀ {chain other : Chain} {candidate rival : Candidate}, other.stop = chain.stop →
      rival.stop = candidate.stop → keep chain candidate = true → keep other rival = true)
    (keeps : KeepsStops Chain.extent left right) :
    KeepsStops Chain.extent (grow fewer child keep left) (grow more child keep right) := by
  refine KeepsStops.offerAll (.nil _ _) fun item member => ?_
  obtain ⟨chain, inside, extended⟩ := List.mem_flatMap.1 member
  obtain ⟨candidate, passed, rfl⟩ := List.mem_map.1 extended
  obtain ⟨found, allowed⟩ := List.mem_filter.1 passed
  obtain ⟨other, there, same⟩ := keeps chain inside
  have same : other.stop = chain.stop := same
  obtain ⟨rival, answered, level⟩ := answers chain.stop candidate found
  rw [← same] at answered
  exact ⟨other.extend rival, List.mem_flatMap.2 ⟨other, there, List.mem_map_of_mem
    (List.mem_filter.2 ⟨answered, kept same level allowed⟩)⟩, level⟩

/-- Chains through elements stop at more places when the answers do. -/
theorem thread_keepsStops {children : List Nat}
    (answers : ∀ child ∈ children, ∀ next,
      KeepsStops Candidate.extent (fewer child next) (more child next))
    {left right : List Chain} (keeps : KeepsStops Chain.extent left right) :
    KeepsStops Chain.extent (thread fewer children left) (thread more children right) := by
  induction children generalizing left right with
  | nil => exact keeps
  | cons child rest hypothesis =>
    refine hypothesis (fun other member => answers other (List.mem_cons_of_mem _ member)) ?_
    exact grow_keepsStops (answers child List.mem_cons_self) (fun _ _ _ => rfl) keeps

/-- An occurrence is used where another is that stops at the same place. -/
theorem advances_of_stop_eq {count : Nat} {chain other : Chain} {candidate rival : Candidate}
    (same : other.stop = chain.stop) (level : rival.stop = candidate.stop)
    (used : advances least count chain candidate = true) :
    advances least count other rival = true := by
  rw [advances, same, level]
  exact used

/-- Chains of some number of occurrences stop at more places when the answers do. -/
theorem rise_keepsStops
    (answers : ∀ next, KeepsStops Candidate.extent (fewer inner next) (more inner next))
    (least position count : Nat) :
    KeepsStops Chain.extent (rise fewer inner least position count)
      (rise more inner least position count) := by
  induction count with
  | zero => exact .refl _ _
  | succ count hypothesis => exact grow_keepsStops answers advances_of_stop_eq hypothesis

/-- The matches of a repetition stop at more places when the answers do. -/
theorem repetitionStep_keepsStops (search : Search)
    (answers : ∀ next, KeepsStops Candidate.extent (fewer inner next) (more inner next))
    (element min : Nat) (max : Option Nat) (position : Nat) :
    KeepsStops Candidate.extent
      (repetitionStep search (told fewer) element inner min max position).run
      (repetitionStep search (told more) element inner min max position).run := by
  obtain ⟨least, minimum⟩ : ∃ least,
      least = if elementNullable search.elements inner then 0 else min := ⟨_, rfl⟩
  obtain ⟨low, within, first, few, -⟩ :=
    exists_run_repetitionStep minimum max fewer element position
  obtain ⟨high, -, second, -, ended⟩ :=
    exists_run_repetitionStep minimum max more element position
  rw [first, second]
  refine keepsStops_toCandidate ?_ (forall_mem_offerAll fun _ => closed_of_mem_reach)
    (forall_mem_offerAll fun _ => closed_of_mem_reach) element
  refine .offerAll (.nil _ _) fun chain member => ?_
  obtain ⟨count, listed, inside⟩ := List.mem_flatMap.1 member
  rw [List.mem_filter, List.mem_reverse, List.mem_range] at listed
  obtain ⟨other, found, same⟩ := rise_keepsStops answers least position count chain inside
  -- No more occurrences are tried for the answers that stop at fewer places.
  have tried : count ≤ high := by
    rcases ended with bound | stuck | all
    · have allowed := few high bound
      omega
    · by_contra above
      rw [rise_eq_nil (by omega) stuck] at found
      exact absurd found (by simp)
    · omega
  refine ⟨other, List.mem_flatMap.2 ⟨count, ?_, found⟩, same⟩
  rw [List.mem_filter, List.mem_reverse, List.mem_range]
  exact ⟨by omega, listed.2⟩

/-- A match of an alternative stops where the alternative does. -/
theorem stop_node_singleton (element position : Nat) (candidate : Candidate) :
    (Candidate.node element position [candidate]).stop = candidate.stop := rfl

/-- The matches of a choice stop at more places when the answers do, in either order. -/
theorem choiceStep_keepsStops {children : List Nat}
    (answers : ∀ child ∈ children, ∀ next,
      KeepsStops Candidate.extent (fewer child next) (more child next))
    (order : ChoiceOrder) (element position : Nat) :
    KeepsStops Candidate.extent (choiceStep order (told fewer) element children position).run
      (choiceStep order (told more) element children position).run := by
  have offered : KeepsStops Candidate.extent _ _ := .offerAll (.nil Candidate.extent [])
    (.flatMap fun child member =>
      (answers child member position).map (stop_node_singleton element position))
  rw [run_choiceStep, run_choiceStep]
  cases order with
  | declared => exact offered
  | longest =>
    exact (KeepsStops.of_subset _ (List.mergeSort_perm _ _).subset).trans
      (offered.trans (.of_subset _ (List.mergeSort_perm _ _).symm.subset))

/-- The matches of an optional element stop at more places when the answers do. -/
theorem withEmpty_keepsStops {left right : List Candidate}
    (answers : KeepsStops Candidate.extent left right) (element position : Nat) :
    KeepsStops Candidate.extent (withEmpty element position left)
      (withEmpty element position right) := by
  have present : ∀ candidate ∈ right, Candidate.node element position [candidate] ∈
      withEmpty element position right := by
    intro candidate member
    have listed := List.mem_map_of_mem (f := fun candidate => Candidate.node element position
      [candidate]) member
    simp only [withEmpty]
    split
    · exact listed
    · exact List.mem_append_left _ listed
  have hollow : ∃ other ∈ withEmpty element position right, other.stop = position := by
    simp only [withEmpty]
    split
    · rename_i empty
      simpa using empty
    · exact ⟨_, List.mem_append_right _ (List.mem_singleton_self _), rfl⟩
  have taken : ∀ item ∈ left.map fun candidate => Candidate.node element position [candidate],
      ∃ other ∈ withEmpty element position right, other.extent.stop = item.extent.stop := by
    intro item member
    obtain ⟨candidate, inside, rfl⟩ := List.mem_map.1 member
    obtain ⟨other, found, same⟩ := answers candidate inside
    exact ⟨_, present other found, same⟩
  intro item member
  simp only [withEmpty] at member
  split at member
  · exact taken item member
  · rcases List.mem_append.1 member with early | last
    · exact taken item early
    · rw [List.mem_singleton.1 last]
      exact hollow

/-- What a step makes of answers stops at more places when the answers do. -/
theorem step_keepsStops {search : Search}
    (answers : ∀ kind, kindOf? search.elements element = some kind → ∀ child ∈ kind.children,
      ∀ next, KeepsStops Candidate.extent (fewer child next) (more child next))
    (position : Nat) :
    KeepsStops Candidate.extent (search.step (told fewer) element position).run
      (search.step (told more) element position).run := by
  have kinds : search.elements[element]?.map Element.kind = kindOf? search.elements element := rfl
  rw [step, step, kinds]
  cases present : kindOf? search.elements element with
  | none => exact .refl _ _
  | some kind =>
    have children := answers kind present
    cases kind with
    | literals set => exact .refl _ _
    | pattern matcher => exact .refl _ _
    | sequence ids =>
      have closed : ∀ chain ∈ [Chain.empty position], chain.Closed position := by
        simp [closed_empty]
      change KeepsStops _ (sequenceStep (told fewer) element ids position).run
        (sequenceStep (told more) element ids position).run
      rw [run_sequenceStep, run_sequenceStep]
      exact keepsStops_toCandidate (thread_keepsStops children (.refl _ _))
        (closed_of_mem_thread closed) (closed_of_mem_thread closed) element
    | choice ids => exact choiceStep_keepsStops children search.order element position
    | optional inner =>
      exact withEmpty_keepsStops (children inner List.mem_cons_self position) element position
    | repetition inner min max =>
      exact repetitionStep_keepsStops search (children inner List.mem_cons_self) element min max
        position

/-- Roots may be put in the order of a mode. -/
theorem arrange_keepsStops {left right : List Candidate}
    (keeps : KeepsStops Candidate.extent left right) (mode : ParseMode) :
    KeepsStops Candidate.extent (mode.arrange left) (mode.arrange right) := by
  cases mode with
  | first => exact keeps
  | widest =>
    exact (KeepsStops.of_subset _ (List.mergeSort_perm _ _).subset).trans
      (keeps.trans (.of_subset _ (List.mergeSort_perm _ _).symm.subset))

/-- The roots stop at more places when the answers for the start symbol do, if of these answers just
those are empty that stop where they were searched for. -/
theorem rootStep_keepsStops (search : Search) {root : Nat}
    (answers : ∀ next, KeepsStops Candidate.extent (fewer root next) (more root next))
    (fewerEmpty : ∀ next, ∀ candidate ∈ fewer root next,
      (candidate.isEmpty = true ↔ candidate.stop = next))
    (moreEmpty : ∀ next, ∀ candidate ∈ more root next,
      (candidate.isEmpty = true ↔ candidate.stop = next)) (mode : ParseMode) :
    KeepsStops Candidate.extent (search.rootStep (told fewer) mode root).run
      (search.rootStep (told more) mode root).run := by
  have filled : ∀ next, KeepsStops Candidate.extent
      ((fewer root next).filter fun candidate => !candidate.isEmpty)
      ((more root next).filter fun candidate => !candidate.isEmpty) := by
    intro next candidate member
    obtain ⟨inside, shown⟩ := List.mem_filter.1 member
    obtain ⟨other, found, same⟩ := answers next candidate inside
    refine ⟨other, List.mem_filter.2 ⟨found, ?_⟩, same⟩
    rw [Bool.not_eq_true', ← Bool.not_eq_true] at shown ⊢
    intro empty
    exact shown ((fewerEmpty next candidate inside).2
      (same.symm.trans ((moreEmpty next other found).1 empty)))
  cases budget : search.budget with
  | unlimited =>
    rw [run_rootStep_unlimited budget, run_rootStep_unlimited budget]
    exact arrange_keepsStops (answers 0) mode
  | limited count =>
    rw [run_rootStep_limited budget, run_rootStep_limited budget, ← offerAll_flatMap,
      ← offerAll_flatMap]
    exact arrange_keepsStops (.offerAll (answers 0) (.flatMap fun next _ => filled next)) mode

end Search

namespace Memo

/-- Whether one memory remembers every pair that another one does, with candidates that stop
wherever those of the other do. -/
def Surpasses (more fewer : Memo) : Prop :=
  ∀ element position found, fewer.find? element position = some found →
    ∃ wider, more.find? element position = some wider ∧
      KeepsStops Candidate.extent found wider

namespace Surpasses

variable {more fewer : Memo} {element position : Nat} {limit : Option Nat}

/-- A memory that may grow out of another one surpasses it. -/
theorem of_grows (grows : fewer.Grows limit more) : more.Surpasses fewer :=
  fun element position found remembered =>
    ⟨found, grows.keeps element position found remembered, .refl _ _⟩

/-- What is recalled from a memory stops wherever what is recalled from one that it surpasses. -/
theorem recollect (surpasses : more.Surpasses fewer) (element position : Nat) :
    KeepsStops Candidate.extent (fewer.recollect element position)
      (more.recollect element position) := by
  cases lookup : fewer.find? element position with
  | none =>
    rw [recollect_of_find?_eq_none lookup]
    exact .nil _ _
  | some found =>
    obtain ⟨wider, remembered, keeps⟩ := surpasses element position found lookup
    rw [recollect_of_find? lookup, recollect_of_find? remembered]
    exact keeps

/-- A memory still surpasses another one when both remember an answer for one pair. -/
theorem insert (surpasses : more.Surpasses fewer) {found wider : List Candidate}
    (keeps : KeepsStops Candidate.extent found wider) (element position : Nat) :
    (more.insert element position wider).Surpasses (fewer.insert element position found) := by
  intro other place recalled remembered
  by_cases same : (other, place) = (element, position)
  · obtain ⟨rfl, rfl⟩ := Prod.mk.inj same
    rw [find?_insert_self] at remembered
    obtain rfl := Option.some.inj remembered
    exact ⟨wider, find?_insert_self _ _ _ _, keeps⟩
  · rw [find?_insert_of_ne same] at remembered
    rw [find?_insert_of_ne same]
    exact surpasses other place recalled remembered

/-- A memory surpasses another one as long as it grows and the other rests. -/
theorem of_rests {before after : Memo} (surpasses : more.Surpasses fewer)
    (rests : after.entries = fewer.entries) (grows : more.Grows limit before) :
    before.Surpasses after := by
  intro element position found remembered
  rw [find?, rests] at remembered
  obtain ⟨wider, known, keeps⟩ := surpasses element position found remembered
  exact ⟨wider, grows.keeps element position wider known, keeps⟩

end Surpasses

end Memo

/-- Whether two computations, from one memory under two limits, do the same, or else the first ends
with a memory without room, which that of the second surpasses. -/
structure Trails (few many : Option Nat) (α : Type) (program richer : StateM Memo α) : Prop where
  /-- The memory of the first only grows. -/
  grows : ∀ memo : Memo, memo.Grows few (program.run memo).2
  /-- The memory of the second only grows. -/
  widens : ∀ memo : Memo, memo.Grows many (richer.run memo).2
  /-- Both do the same until the first has no more room. -/
  together : ∀ memo, program.run memo = richer.run memo ∨
    ((program.run memo).2.isFull few = true ∧ (richer.run memo).2.Surpasses (program.run memo).2)

/-- Once the first computation has no more room, its memory stays as it is. -/
theorem Trails.congruence (few many : Option Nat) : Congruence (Trails few many) where
  pure value := ⟨fun memo => .refl memo, fun memo => .refl memo, fun memo => Or.inl rfl⟩
  bind {_ _ program richer next follow} first rest := by
    refine ⟨fun memo => ?_, fun memo => ?_, fun memo => ?_⟩
    · exact (first.grows memo).trans ((rest _).grows _)
    · exact (first.widens memo).trans ((rest _).widens _)
    · rw [StateT.run_bind, StateT.run_bind]
      rcases first.together memo with same | ⟨full, surpasses⟩
      · rw [← same]
        exact (rest _).together _
      · have after := (rest (program.run memo).1).grows (program.run memo).2
        have still := after.rests full
        refine Or.inr ⟨?_, surpasses.of_rests still ((rest _).widens _)⟩
        change ((next (program.run memo).1).run (program.run memo).2).2.isFull few = true
        rwa [Memo.isFull, Memo.size, still]

namespace Search

/-- A search with a smaller limit trails one with a larger limit. -/
theorem solve_trails {search : Search}
    (below : ∀ element kind, kindOf? search.elements element = some kind →
      ∀ child ∈ kind.children, child < element) {few many : Option Nat}
    (more : ∀ memo : Memo, memo.isFull few = false → memo.isFull many = false) (depth : Nat) :
    ∀ element < depth, ∀ position, Trails few many _ (search.solve few depth element position)
      (search.solve many depth element position) := by
  induction depth with
  | zero => exact fun element less => absurd less (Nat.not_lt_zero _)
  | succ depth hypothesis =>
    intro element less position
    have grows := fun memo => (solve_recalls below few {} (depth + 1) element less position memo).1
    have widens := fun memo =>
      (solve_recalls below many {} (depth + 1) element less position memo).1
    refine ⟨grows, widens, fun memo => ?_⟩
    cases lookup : memo.find? element position with
    | some found =>
      rw [run_solve_of_find? search few depth lookup, run_solve_of_find? search many depth lookup]
      exact Or.inl rfl
    | none =>
      cases full : memo.isFull few with
      | true =>
        rw [run_solve_of_full search depth lookup full]
        have still : Memo.Grows many { memo with exhausted := true } memo := .of_entries rfl
        exact Or.inr ⟨full, .of_grows (still.trans (widens memo))⟩
      | false =>
        have earlier : ∀ kind, kindOf? search.elements element = some kind →
            ∀ child ∈ kind.children, child < depth := by
          intro kind present child member
          have before := below element kind present child member
          omega
        have step := (Trails.congruence few many).step (search.solve few depth)
          (search.solve many depth) (fun kind present child member =>
            hypothesis child (earlier kind present child member)) position
        rw [run_solve_of_room search depth lookup full,
          run_solve_of_room search depth lookup (more memo full)]
        rcases step.together memo with same | ⟨full, surpasses⟩
        · rw [same]
          exact Or.inl rfl
        · refine Or.inr ⟨Memo.isFull_insert full _ _ _, surpasses.insert ?_ _ _⟩
          -- Both answers are what the step makes of what is remembered for the children.
          have told : ∀ limit, ((search.step (search.solve limit depth) element position).run
              memo).1 = (search.step (told ((search.step (search.solve limit depth) element
                position).run memo).2.recollect) element position).run := by
            intro limit
            exact ((Recalls.congruence limit _).step (search.solve limit depth) _
              (fun kind present child member => solve_recalls below limit _ depth child
                (earlier kind present child member)) position memo).2 (.refl _)
          rw [told few, told many]
          exact step_keepsStops (fun _ _ child _ next => surpasses.recollect child next) position

end Search

namespace Grammar

variable {declaration : Declaration} {grammar : Grammar} {options : MatchOptions}

/-- Of the candidates that are recalled for the start symbol after a search for the roots, just
those are empty that stop where they were searched for. -/
theorem isEmpty_of_mem_recollect (grounded : Grounded grammar.case grammar.elements)
    (options : MatchOptions) (tokens : List Token) {position : Nat} {candidate : Candidate}
    (member : candidate ∈ (grammar.memory options tokens).recollect grammar.root position) :
    candidate.isEmpty = true ↔ candidate.stop = position := by
  have holds : (grammar.memory options tokens).Holds
      (Solved grammar options.skipBudget tokens options.maxMemoEntries) :=
    (Search.rootStep_yields grounded options tokens options.maxMemoEntries {}
      (Memo.holds_empty _)).2
  cases lookup : (grammar.memory options tokens).find? grammar.root position with
  | none =>
    rw [Memo.recollect_of_find?_eq_none lookup] at member
    exact absurd member (by simp)
  | some found =>
    rw [Memo.recollect_of_find? lookup] at member
    exact ((holds _ _ _ lookup).sound candidate member).isEmpty_iff_stop_eq grounded

/-- The roots are what the search for them makes of what is remembered at its end. -/
theorem roots_eq_recollect (built : declaration.build = .ok grammar) (options : MatchOptions)
    (tokens : List Token) :
    grammar.roots options tokens = ((Search.of grammar options tokens).rootStep
      (Search.told (grammar.memory options tokens).recollect) options.mode grammar.root).run := by
  have grounded := Declaration.grounded_of_build built
  obtain ⟨element, stands, -⟩ := (Declaration.represents_of_build built).root
  have recalls := Search.solve_recalls (Search.child_lt grounded options tokens)
    options.maxMemoEntries (grammar.memory options tokens) grammar.size grammar.root
    (List.getElem?_eq_some_iff.1 stands).1
  exact ((Recalls.congruence _ _).rootStep (Search.of grammar options tokens) _ _ recalls
    options.mode {}).2 (.refl _)

/-- A limit on memory only loses matches: the roots under a limit stop nowhere else than the roots
under one that is not smaller, or under none. A limit that allows an entry for every pair of element
and position changes nothing: the roots are the same candidates in the same order. -/
theorem limit_only_loses_stops (built : declaration.build = .ok grammar) (options : MatchOptions)
    (tokens : List Token) {limit : Nat} {wider : Option Nat}
    (le : ∀ count, wider = some count → limit ≤ count) :
    (∀ stop ∈ (grammar.roots { options with maxMemoEntries := some limit } tokens).map
        Candidate.stop,
      stop ∈ (grammar.roots { options with maxMemoEntries := wider } tokens).map
        Candidate.stop) ∧
    (grammar.size * (tokens.length + 1) ≤ limit →
      grammar.roots { options with maxMemoEntries := some limit } tokens =
        grammar.roots { options with maxMemoEntries := none } tokens) := by
  have grounded := Declaration.grounded_of_build built
  let few : MatchOptions := { options with maxMemoEntries := some limit }
  let many : MatchOptions := { options with maxMemoEntries := wider }
  constructor
  · suffices keeps : KeepsStops Candidate.extent (grammar.roots few tokens)
        (grammar.roots many tokens) by
      intro stop member
      obtain ⟨candidate, inside, rfl⟩ := List.mem_map.1 member
      obtain ⟨other, found, same⟩ := keeps candidate inside
      exact List.mem_map.2 ⟨other, found, same⟩
    have more : ∀ memo : Memo, memo.isFull (some limit) = false → memo.isFull wider = false := by
      intro memo room
      cases wider with
      | none => rfl
      | some count =>
        have allowed := le count rfl
        rw [Memo.isFull_some, decide_eq_false_iff_not] at room ⊢
        omega
    obtain ⟨element, stands, -⟩ := (Declaration.represents_of_build built).root
    have trails := (Trails.congruence (some limit) wider).rootStep
      (Search.of grammar options tokens) _ _ (Search.solve_trails
        (Search.child_lt grounded options tokens) more grammar.size grammar.root
        (List.getElem?_eq_some_iff.1 stands).1) options.mode
    rcases trails.together {} with same | ⟨-, surpasses⟩
    · have roots : grammar.roots few tokens = grammar.roots many tokens := congrArg Prod.fst same
      rw [roots]
      exact .refl _ _
    · rw [roots_eq_recollect built few, roots_eq_recollect built many]
      exact Search.rootStep_keepsStops _ (surpasses.recollect grammar.root)
        (fun _ _ => isEmpty_of_mem_recollect grounded few tokens)
        (fun _ _ => isEmpty_of_mem_recollect grounded many tokens) options.mode
  · intro ample
    rw [roots_eq_afresh_of_ample built, roots_eq_afresh_of_ample built]
    · rfl
    · simp
    · simpa using ample

/-- Options of the search of the commands with some limit on memory. -/
def lampOptionsWith (limit : Option Nat) : MatchOptions :=
  { lampOptions with maxMemoEntries := limit }

/-- With eight entries the command is found already, so it is found with nine; and fifty-six entries
are as good as no limit, as there are eight elements and seven positions. -/
theorem lamp_limit_loses_nothing_more : ∃ grammar, lampDeclaration.build = .ok grammar ∧
    6 ∈ (grammar.roots (lampOptionsWith (some 8)) lampSentence).map Candidate.stop ∧
    6 ∈ (grammar.roots (lampOptionsWith (some 9)) lampSentence).map Candidate.stop ∧
    grammar.size * (lampSentence.length + 1) ≤ 56 ∧
    grammar.roots (lampOptionsWith (some 56)) lampSentence =
      grammar.roots (lampOptionsWith none) lampSentence := by
  obtain ⟨grammar, built, read⟩ : ∃ grammar, lampDeclaration.build = .ok grammar ∧
      ((grammar.roots (lampOptionsWith (some 8)) lampSentence).map Candidate.stop, grammar.size) =
        ([6], 8) := exists_built (by decide +kernel)
  obtain ⟨stops, size⟩ := Prod.mk.inj read
  have found : 6 ∈ (grammar.roots (lampOptionsWith (some 8)) lampSentence).map Candidate.stop := by
    rw [stops]
    exact List.mem_singleton_self 6
  have ample : grammar.size * (lampSentence.length + 1) ≤ 56 := by
    rw [size]
    decide
  have wider := limit_only_loses_stops built lampOptions lampSentence
    (show ∀ count, some 9 = some count → 8 ≤ count by simp)
  have whole := limit_only_loses_stops built lampOptions lampSentence
    (show ∀ count, none = some count → 56 ≤ count by simp)
  exact ⟨grammar, built, found, wider.1 6 found, ample, whole.2 ample⟩

end Grammar

end Utterance

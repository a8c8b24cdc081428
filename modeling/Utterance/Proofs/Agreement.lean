import Utterance.Proofs.Direct
import Utterance.Proofs.Front

/-!
# Agreement

Two searches may find different items and still come to the same end, when the items that differ
lead nowhere. Lists agree on useful places when they hold the same items that stop there
(`AgreeOn`). Items that stop at different places do not compete, so offering keeps agreement, and so
does each way in which a step makes items of others: chains that grow (`Search.grow_agrees`),
numbers of occurrences (`Search.reach_agrees`), the order of a choice (`AgreeOn.arrange`) and the
empty match of an optional element (`AgreeOn.withEmpty`). Where one of the lists was found behind
tokens in front, it is compared after it has moved back.
-/
namespace Utterance

/-- Whether items that stop at useful places are the same. -/
def AgreeOn {α : Type} (extent : α → Extent) (useful : Nat → Bool) (left right : List α) : Prop :=
  left.filter (fun item => useful (extent item).stop) =
    right.filter fun item => useful (extent item).stop

namespace AgreeOn

variable {α β : Type} {extent : α → Extent} {useful fewer : Nat → Bool} {left right : List α}

/-- What is made of items that agree agrees, if its useful part is made of the useful items. -/
theorem lift {image : β → Extent} (make pick : List α → List β)
    (agree : AgreeOn extent useful left right)
    (both : ∀ items, (make items).filter (fun item => fewer (image item).stop) =
      pick (items.filter fun item => useful (extent item).stop)) :
    AgreeOn image fewer (make left) (make right) := by
  rw [AgreeOn, both left, both right]
  exact congrArg pick agree

/-- Items that are the same at some places are so at fewer. -/
theorem mono (agree : AgreeOn extent useful left right)
    (less : ∀ stop, fewer stop = true → useful stop = true) : AgreeOn extent fewer left right := by
  refine agree.lift id (List.filter fun item => fewer (extent item).stop) fun items => ?_
  rw [List.filter_filter]
  refine List.filter_congr fun item _ => ?_
  rw [Bool.eq_iff_iff, Bool.and_eq_true]
  exact ⟨fun kept => ⟨kept, less _ kept⟩, And.left⟩

/-- Items that are gathered one after another are the same if they are from each source. -/
theorem flatMap {sources : List β} {first second : β → List α}
    (each : ∀ source ∈ sources, AgreeOn extent useful (first source) (second source)) :
    AgreeOn extent useful (sources.flatMap first) (sources.flatMap second) := by
  rw [AgreeOn, List.filter_flatMap, List.filter_flatMap]
  exact List.flatMap_congr each

/-- What is made of the same items is the same, if it stops where they do. -/
theorem map {image : β → Extent} {make : α → β} (agree : AgreeOn extent useful left right)
    (leftStops : ∀ item ∈ left, (image (make item)).stop = (extent item).stop)
    (rightStops : ∀ item ∈ right, (image (make item)).stop = (extent item).stop) :
    AgreeOn image useful (left.map make) (right.map make) := by
  have both : ∀ items : List α, (∀ item ∈ items, (image (make item)).stop = (extent item).stop) →
      (items.map make).filter (fun item => useful (image item).stop) =
        (items.filter fun item => useful (extent item).stop).map make := by
    intro items stops
    rw [List.filter_map]
    congr 1
    refine List.filter_congr fun item member => ?_
    rw [Function.comp, stops item member]
  rw [AgreeOn, both left leftStops, both right rightStops]
  exact congrArg _ agree

/-- What is held of the same items is the same. -/
theorem offerAll (agree : AgreeOn extent useful left right) :
    AgreeOn extent useful (Utterance.offerAll extent [] left)
      (Utterance.offerAll extent [] right) :=
  agree.lift _ (Utterance.offerAll extent []) fun items => filter_offerAll useful [] items

variable {before after : Nat → Bool}

/-- Chains grown by candidates that agree agree. -/
theorem extend {left right : List Candidate} (agree : AgreeOn Candidate.extent after left right)
    (keep : Candidate → Bool) (chain : Chain) :
    AgreeOn Chain.extent after ((left.filter keep).map chain.extend)
      ((right.filter keep).map chain.extend) := by
  let grown := fun candidates : List Candidate => (candidates.filter keep).map chain.extend
  refine agree.lift grown grown fun candidates => ?_
  show ((candidates.filter keep).map chain.extend).filter (fun item => after item.extent.stop) =
    ((candidates.filter fun item => after item.extent.stop).filter keep).map chain.extend
  rw [List.filter_map, List.filter_filter, List.filter_filter]
  congr 1
  refine List.filter_congr fun candidate _ => ?_
  rw [Bool.and_comm]
  rfl

/-- What is made of chains agrees if they do and no others are useful. -/
theorem flatMap_chains {left right : List Chain} {grown : Chain → List Chain}
    (agree : AgreeOn Chain.extent before left right)
    (covered : ∀ chain, ∀ item ∈ grown chain, after item.extent.stop = true →
      before chain.extent.stop = true) :
    AgreeOn Chain.extent after (left.flatMap grown) (right.flatMap grown) := by
  refine agree.lift (List.flatMap grown) (List.flatMap fun chain =>
    (grown chain).filter fun item => after item.extent.stop) fun chains => ?_
  rw [List.filter_flatMap]
  refine (flatMap_filter_of_nil chains fun chain _ useless => ?_).symm
  rw [List.filter_eq_nil_iff]
  intro item member useful
  rw [covered chain item member useful] at useless
  exact absurd useless (by simp)

end AgreeOn

/-- Items with clear extents move back, with the held ones, before they are offered or after. -/
theorem map_offerAll_back_held {α : Type} {extent : α → Extent} {back : α → α} {ahead : Nat}
    (moves : ∀ item, extent (back item) = (extent item).back ahead) (position : Nat)
    {held items : List α} (holds : ∀ item ∈ held, (extent item).Clear ahead position)
    (clear : ∀ item ∈ items, (extent item).Clear ahead position) :
    (offerAll extent held items).map back = offerAll extent (held.map back) (items.map back) := by
  refine (offerAll_turn (fun item => (extent item).Clear ahead position) ?_ holds clear).symm
  intro item held itemClear heldClear
  constructor
  · rw [moves, moves]
    exact heldClear.level itemClear
  · intro _
    rw [moves, moves]
    exact itemClear.outranks_back heldClear

/-- Items with clear extents move back before they are offered or after. -/
theorem map_offerAll_back {α : Type} {extent : α → Extent} {back : α → α} {ahead : Nat}
    (moves : ∀ item, extent (back item) = (extent item).back ahead) (position : Nat)
    {items : List α} (clear : ∀ item ∈ items, (extent item).Clear ahead position) :
    (offerAll extent [] items).map back = offerAll extent [] (items.map back) :=
  map_offerAll_back_held moves position (by simp) clear

/-- Candidates made of chains that agree agree. -/
theorem AgreeOn.toCandidates {ahead position : Nat} {useful : Nat → Bool}
    {farChains nearChains : List Chain}
    (farClear : ∀ chain ∈ farChains, chain.Clear ahead position)
    (nearClear : ∀ chain ∈ nearChains, chain.Clear 0 (position - ahead))
    (agree : AgreeOn Chain.extent useful (farChains.map (Chain.back ahead)) nearChains)
    (element : Nat) :
    AgreeOn Candidate.extent useful
      ((farChains.map (Chain.toCandidate element position)).map (Candidate.back ahead))
      (nearChains.map (Chain.toCandidate element (position - ahead))) := by
  rw [Chain.map_toCandidate_back farClear]
  refine agree.map ?_ fun chain member => (nearClear chain member).stop_toCandidate element
  intro chain listed
  obtain ⟨before, member, rfl⟩ := List.mem_map.1 listed
  exact (farClear before member).stop_toCandidate_back element

namespace Search

variable {far near : Nat → Nat → List Candidate} {child ahead position : Nat}
  {keep : Chain → Candidate → Bool} {before after : Nat → Bool} {farChains nearChains : List Chain}

/-- Clear chains grow to clear chains. -/
theorem grow_clear (clear : ∀ chain ∈ farChains, chain.Clear ahead position)
    (answers : ∀ chain ∈ farChains, ∀ candidate ∈ far child chain.stop,
      candidate.extent.Clear ahead chain.stop) :
    ∀ chain ∈ grow far child keep farChains, chain.Clear ahead position := by
  intro grown member
  obtain ⟨chain, listed, candidate, answered, -, rfl⟩ := exists_of_mem_grow member
  exact (clear chain listed).extend (answers chain listed candidate answered)

/-- What grows from clear chains by clear answers moves back with them. -/
theorem map_grow_back (clear : ∀ chain ∈ farChains, chain.Clear ahead position)
    (answers : ∀ chain ∈ farChains, ∀ candidate ∈ far child chain.stop,
      candidate.extent.Clear ahead chain.stop)
    (keeps : ∀ chain ∈ farChains, ∀ candidate ∈ far child chain.stop,
      keep (chain.back ahead) (candidate.back ahead) = keep chain candidate) :
    (grow far child keep farChains).map (Chain.back ahead) =
      offerAll Chain.extent [] (farChains.flatMap fun chain =>
        (((far child chain.stop).map (Candidate.back ahead)).filter
          (keep (chain.back ahead))).map (chain.back ahead).extend) := by
  have items : ∀ chain ∈ farChains,
      (((far child chain.stop).filter (keep chain)).map chain.extend).map (Chain.back ahead) =
        (((far child chain.stop).map (Candidate.back ahead)).filter
          (keep (chain.back ahead))).map (chain.back ahead).extend := by
    intro chain listed
    have passes : (far child chain.stop).filter (keep (chain.back ahead) ∘ Candidate.back ahead) =
        (far child chain.stop).filter (keep chain) := List.filter_congr (keeps chain listed)
    rw [List.filter_map, List.map_map, List.map_map, passes]
    refine List.map_congr_left fun candidate passed => ?_
    have answered := answers chain listed candidate (List.mem_of_mem_filter passed)
    exact Chain.back_extend (Candidate.behind_of_clear answered) chain
  rw [grow, ← List.flatMap_congr items, ← List.map_flatMap]
  refine map_offerAll_back (Chain.back_extent ahead) position fun item listed => ?_
  obtain ⟨chain, before, extended⟩ := List.mem_flatMap.1 listed
  obtain ⟨candidate, passed, rfl⟩ := List.mem_map.1 extended
  exact ((clear chain before).extend
    (answers chain before candidate (List.mem_of_mem_filter passed))).extent

/-- Chains that agree grow to chains that agree, by answers that do. -/
theorem grow_agrees (clear : ∀ chain ∈ farChains, chain.Clear ahead position)
    (answers : ∀ chain ∈ farChains, ∀ candidate ∈ far child chain.stop,
      candidate.extent.Clear ahead chain.stop)
    (keeps : ∀ chain ∈ farChains, ∀ candidate ∈ far child chain.stop,
      keep (chain.back ahead) (candidate.back ahead) = keep chain candidate)
    (covered : ∀ place, ∀ candidate ∈ near child place, after candidate.stop = true →
      before place = true)
    (asked : ∀ chain ∈ farChains, AgreeOn Candidate.extent after
      ((far child chain.stop).map (Candidate.back ahead)) (near child (chain.stop - ahead)))
    (agree : AgreeOn Chain.extent before (farChains.map (Chain.back ahead)) nearChains) :
    AgreeOn Chain.extent after ((grow far child keep farChains).map (Chain.back ahead))
      (grow near child keep nearChains) := by
  let grown := fun chain : Chain => ((near child chain.stop).filter (keep chain)).map chain.extend
  rw [map_grow_back clear answers keeps, grow]
  -- First each chain is grown by the answers without tokens in front, then the chains are.
  have same : AgreeOn Chain.extent after
      (farChains.flatMap fun chain => (((far child chain.stop).map (Candidate.back ahead)).filter
        (keep (chain.back ahead))).map (chain.back ahead).extend)
      ((farChains.map (Chain.back ahead)).flatMap grown) := by
    rw [List.flatMap_map]
    exact AgreeOn.flatMap fun chain listed =>
      (asked chain listed).extend (keep (chain.back ahead)) (chain.back ahead)
  have others : AgreeOn Chain.extent after ((farChains.map (Chain.back ahead)).flatMap grown)
      (nearChains.flatMap grown) := by
    refine agree.flatMap_chains fun chain item listed useful => ?_
    obtain ⟨candidate, passed, rfl⟩ := List.mem_map.1 listed
    exact covered chain.stop candidate (List.mem_of_mem_filter passed) useful
  exact AgreeOn.offerAll (same.trans others)

variable {inner least last : Nat} {useful : Nat → Bool}

/-- The chains that repetitions gather agree if those of each number of occurrences do. -/
theorem reach_agrees (each : ∀ count, least ≤ count → count ≤ last → AgreeOn Chain.extent useful
      ((rise far inner least position count).map (Chain.back ahead))
      (rise near inner least (position - ahead) count)) :
    AgreeOn Chain.extent useful ((reach far inner least position last).map (Chain.back ahead))
      (reach near inner least (position - ahead) last) := by
  rw [reach, reach, List.map_flatMap]
  refine AgreeOn.flatMap fun count listed => ?_
  obtain ⟨tried, met⟩ := List.mem_filter.1 listed
  exact each count (by simpa using met) (by simpa [Nat.lt_succ_iff] using tried)

end Search

/-- What is held after items have been offered stops at different places. -/
theorem distinct_offerAll {α : Type} (extent : α → Extent) (items : List α) :
    ((offerAll extent [] items).map fun item => (extent item).stop).Nodup := by
  have gathered := (Gathered.nil : Gathered extent [] []).offerAll items
  exact gathered.distinct

namespace ChoiceOrder

/-- Matches of a choice are kept before they are arranged or after. -/
theorem filter_arrange {found : List Candidate} (distinct : (found.map Candidate.stop).Nodup)
    (keep : Candidate → Bool) (order : ChoiceOrder) :
    (order.arrange found).filter keep = order.arrange (found.filter keep) := by
  cases order with
  | declared => rfl
  | longest =>
    have sorted : ∀ candidates : List Candidate,
        (candidates.mergeSort fun left right => right.stop ≤ left.stop).Pairwise
          fun left right => (decide (right.stop ≤ left.stop)) = true := by
      intro candidates
      refine List.pairwise_mergeSort ?_ ?_ candidates
      · intro first second third
        simp only [decide_eq_true_eq]
        omega
      · intro first second
        simp only [Bool.or_eq_true, decide_eq_true_eq]
        omega
    have same : ∀ left right : Candidate, left ∈ found → right ∈ found →
        decide (right.stop ≤ left.stop) = true → decide (left.stop ≤ right.stop) = true →
          left = right := by
      intro left right leftHeld rightHeld further before
      rw [decide_eq_true_eq] at further before
      exact List.inj_on_of_nodup_map distinct leftHeld rightHeld (Nat.le_antisymm before further)
    refine List.Perm.eq_of_pairwise ?_ ((sorted found).filter keep) (sorted _) ?_
    · intro left right leftHeld rightHeld
      exact same left right (List.mem_mergeSort.1 (List.mem_of_mem_filter leftHeld))
        (List.mem_of_mem_filter (List.mem_mergeSort.1 rightHeld))
    · exact ((List.mergeSort_perm found _).filter keep).trans (List.mergeSort_perm _ _).symm

/-- Matches of a choice with clear extents move back before they are arranged or after. -/
theorem map_arrange_back {ahead position : Nat} {found : List Candidate}
    (clear : ∀ candidate ∈ found, candidate.extent.Clear ahead position) (order : ChoiceOrder) :
    (order.arrange found).map (Candidate.back ahead) =
      order.arrange (found.map (Candidate.back ahead)) := by
  cases order with
  | declared => rfl
  | longest =>
    refine List.map_mergeSort fun left leftHeld right rightHeld => ?_
    have leftClear := clear left leftHeld
    have rightClear := clear right rightHeld
    unfold Extent.Clear at leftClear rightClear
    rw [Candidate.back_stop, Candidate.back_stop, Bool.eq_iff_iff, decide_eq_true_eq,
      decide_eq_true_eq]
    show right.extent.stop ≤ left.extent.stop ↔
      right.extent.stop - ahead ≤ left.extent.stop - ahead
    omega

end ChoiceOrder

/-- Matches of a choice that agree do so after they are arranged. -/
theorem AgreeOn.arrange {useful : Nat → Bool} {left right : List Candidate}
    (agree : AgreeOn Candidate.extent useful left right)
    (leftDistinct : (left.map Candidate.stop).Nodup)
    (rightDistinct : (right.map Candidate.stop).Nodup) (order : ChoiceOrder) :
    AgreeOn Candidate.extent useful (order.arrange left) (order.arrange right) := by
  rw [AgreeOn, order.filter_arrange leftDistinct, order.filter_arrange rightDistinct]
  exact congrArg (fun found => order.arrange found) agree

/-- Useful candidates of an optional element are those of its child, and the empty one if it is
useful and none of these is empty. -/
theorem Search.filter_withEmpty (useful : Nat → Bool) (element position : Nat)
    (candidates : List Candidate) {found : List Candidate}
    (kept : found = (candidates.map fun candidate =>
      Candidate.node element position [candidate]).filter fun item => useful item.extent.stop) :
    (withEmpty element position candidates).filter (fun item => useful item.extent.stop) =
      if useful position && !found.any (·.stop == position) then
        found ++ [.node element position []]
      else found := by
  have hollow : (Candidate.node element position []).extent.stop = position := rfl
  have told : useful position = true → found.any (·.stop == position) =
      (candidates.map fun candidate => Candidate.node element position [candidate]).any
        (·.stop == position) := by
    intro here
    rw [kept, List.any_filter]
    refine List.any_congr rfl fun item => ?_
    by_cases still : item.stop = position
    · have useful_item : useful item.extent.stop = true := by
        rw [← here]
        exact congrArg useful still
      rw [useful_item, Bool.true_and]
    · have moves : (item.stop == position) = false := by simpa using still
      rw [moves, Bool.and_false]
  rw [withEmpty, apply_ite (List.filter _), List.filter_append, ← kept, List.filter_singleton,
    hollow]
  by_cases here : useful position = true
  · rw [here, told here]
    cases (candidates.map fun candidate => Candidate.node element position [candidate]).any
      (·.stop == position) <;> rfl
  · have nowhere : useful position = false := by simpa using here
    simp [nowhere]

/-- Candidates of optional elements agree if those of their children do. -/
theorem AgreeOn.withEmpty {useful : Nat → Bool} {left right : List Candidate}
    (agree : AgreeOn Candidate.extent useful left right) (element position : Nat) :
    AgreeOn Candidate.extent useful (Search.withEmpty element position left)
      (Search.withEmpty element position right) := by
  have inside : AgreeOn Candidate.extent useful
      (left.map fun candidate => Candidate.node element position [candidate])
      (right.map fun candidate => Candidate.node element position [candidate]) :=
    agree.map (fun _ _ => rfl) fun _ _ => rfl
  rw [AgreeOn, Search.filter_withEmpty useful element position left rfl,
    Search.filter_withEmpty useful element position right inside]

/-- Candidates of an optional element move back with those of its child. -/
theorem Search.map_withEmpty_back {ahead position : Nat} {candidates : List Candidate}
    (clear : ∀ candidate ∈ candidates, candidate.extent.Clear ahead position) (element : Nat) :
    (withEmpty element position candidates).map (Candidate.back ahead) =
      withEmpty element (position - ahead) (candidates.map (Candidate.back ahead)) := by
  have hollow : (Candidate.node element position []).back ahead =
      .node element (position - ahead) [] :=
    Candidate.node_back (by simp) rfl (Or.inl rfl) element
  have told : ((candidates.map (Candidate.back ahead)).map fun candidate =>
        Candidate.node element (position - ahead) [candidate]).any (·.stop == position - ahead) =
      (candidates.map fun candidate => Candidate.node element position [candidate]).any
        (·.stop == position) := by
    rw [List.map_map, List.any_map, List.any_map, Bool.eq_iff_iff, List.any_eq_true,
      List.any_eq_true]
    refine exists_congr fun candidate => and_congr_right fun member => ?_
    have cases := clear candidate member
    unfold Extent.Clear at cases
    simp only [Function.comp, beq_iff_eq]
    show (candidate.back ahead).stop = position - ahead ↔ candidate.extent.stop = position
    rw [Candidate.back_stop]
    show candidate.extent.stop - ahead = position - ahead ↔ candidate.extent.stop = position
    omega
  rw [withEmpty, withEmpty, told, apply_ite (List.map _), List.map_append, List.map_singleton,
    hollow, Candidate.map_node_back clear]

end Utterance

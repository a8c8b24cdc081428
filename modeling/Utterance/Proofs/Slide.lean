import Utterance.Proofs.Exhaustive

/-!
# Making room for a token

A token that is put in at a place moves the tokens from there on by one. A position lies between
tokens: it moves when it is after the place, so that what stopped at the place stops there still
(`slidePosition`), while the token at the place itself has moved (`slideToken`). Extents,
candidates, chains and memories slide with the places that they hold.

What competes for a stop is ranked by the tokens that it consumes and by the noise inside it. Room
inside an extent adds noise, but it adds it to all extents with that stop that start before the
place, so a ranking never changes (`Extent.Fits.outranks_slide`) and the same candidates are kept
(`offerAll_map`).
-/
namespace Utterance

/-- Where a position is after a token has been put in at a place. -/
def slidePosition (place position : Nat) : Nat :=
  if place < position then position + 1 else position

/-- Where a token is after another one has been put in at a place. -/
def slideToken (place token : Nat) : Nat :=
  if place ≤ token then token + 1 else token

section

variable {place token position left right : Nat}

/-- The first position stays. -/
@[simp] theorem slidePosition_zero (place : Nat) : slidePosition place 0 = 0 := by
  simp [slidePosition]

/-- Positions keep their order. -/
@[simp] theorem slidePosition_le_iff :
    slidePosition place left ≤ slidePosition place right ↔ left ≤ right := by
  unfold slidePosition
  split <;> split <;> omega

/-- Different positions stay different. -/
@[simp] theorem slidePosition_inj :
    slidePosition place left = slidePosition place right ↔ left = right := by
  unfold slidePosition
  split <;> split <;> omega

/-- Tokens keep their order. -/
@[simp] theorem slideToken_lt_iff :
    slideToken place left < slideToken place right ↔ left < right := by
  unfold slideToken
  split <;> split <;> omega

/-- A token stays before a position or after it. -/
@[simp] theorem slideToken_lt_slidePosition_iff :
    slideToken place token < slidePosition place position ↔ token < position := by
  unfold slideToken slidePosition
  split <;> split <;> omega

/-- A token that is not the one after a position does not become it. -/
theorem slideToken_ne_slidePosition (different : token ≠ position) :
    slideToken place token ≠ slidePosition place position := by
  unfold slideToken slidePosition
  split <;> split <;> omega

/-- The position after a token moves with it. -/
theorem slidePosition_succ (place token : Nat) :
    slidePosition place (token + 1) = slideToken place token + 1 := by
  unfold slideToken slidePosition
  split <;> split <;> omega

/-- Tokens from a start up to a stop are as many as before, unless the place divides them. -/
theorem slide_width (filled : left < right) (together : ¬ (left < place ∧ place < right)) :
    slidePosition place right - slideToken place left = right - left := by
  unfold slidePosition slideToken
  split <;> split <;> omega

end

namespace Extent

/-- The extent after a token has been put in at a place. -/
def slide (place : Nat) (extent : Extent) : Extent where
  start := if extent.start = extent.stop then slidePosition place extent.start
    else slideToken place extent.start
  stop := slidePosition place extent.stop
  consumed := extent.consumed

/-- Where an extent stops is a position. -/
@[simp] theorem slide_stop (place : Nat) (extent : Extent) :
    (extent.slide place).stop = slidePosition place extent.stop := rfl

/-- Whether what an extent consumes lies between its start and its stop, and is something unless
these are the same. -/
structure Fits (extent : Extent) : Prop where
  /-- What is consumed lies between start and stop. -/
  inside : extent.start + extent.consumed ≤ extent.stop
  /-- Only an extent without tokens consumes none. -/
  filled : extent.consumed = 0 → extent.start = extent.stop

namespace Fits

variable {extent left right : Extent}

/-- Of extents with one stop, the one that consumes more is better, and among those that consume as
much the one that starts later. -/
theorem outranks_iff (leftFits : left.Fits) (rightFits : right.Fits)
    (same : left.stop = right.stop) :
    left.outranks right = true ↔ right.consumed < left.consumed ∨
      (left.consumed = right.consumed ∧ right.start < left.start) := by
  have leftInside := leftFits.inside
  have rightInside := rightFits.inside
  simp only [outranks, Bool.or_eq_true, Bool.and_eq_true, decide_eq_true_eq, beq_iff_eq]
  unfold noise
  omega

/-- An extent fits after it has moved. -/
theorem slide (fits : extent.Fits) (place : Nat) : (extent.slide place).Fits := by
  obtain ⟨inside, filled⟩ := fits
  constructor
  · simp only [Extent.slide]
    by_cases empty : extent.start = extent.stop
    · rw [if_pos empty, empty]
      omega
    · rw [if_neg empty]
      unfold slideToken slidePosition
      split <;> split <;> omega
  · intro nothing
    exact (if_pos (filled nothing)).trans (congrArg _ (filled nothing))

/-- Extents with one stop are ranked as before. -/
theorem outranks_slide (leftFits : left.Fits) (rightFits : right.Fits)
    (same : left.stop = right.stop) (place : Nat) :
    (left.slide place).outranks (right.slide place) = left.outranks right := by
  have level : (left.slide place).stop = (right.slide place).stop :=
    congrArg (slidePosition place) same
  rw [Bool.eq_iff_iff, (leftFits.slide place).outranks_iff (rightFits.slide place) level,
    leftFits.outranks_iff rightFits same]
  simp only [Extent.slide]
  refine or_congr_right (and_congr_right fun equal => ?_)
  -- Extents that consume as much are both empty at their stop, or both start with a token.
  by_cases nothing : left.consumed = 0
  · have leftEmpty := leftFits.filled nothing
    have rightEmpty := rightFits.filled (equal.symm.trans nothing)
    simp only [leftEmpty, rightEmpty, same, if_true, Nat.lt_irrefl]
  · have leftInside := leftFits.inside
    have rightInside := rightFits.inside
    rw [if_neg (by omega), if_neg (by omega), slideToken_lt_iff]

end Fits

end Extent

/-- Leaves in order have an extent that fits what they consume. -/
theorem Leaf.Ordered.fits {position stop : Nat} {leaves : List Leaf}
    (ordered : Leaf.Ordered position leaves stop) : (Leaf.extent position leaves).Fits := by
  refine ⟨?_, fun nothing => ?_⟩
  · rw [ordered.extent_stop]
    exact ordered.bounds.2
  · rw [ordered.consumed_eq_zero_iff.1 nothing]
    rfl

section

variable {α : Type} {extent : α → Extent} {place : Nat} {turn : α → α}

/-- Whether an item that is turned into another has its extent slide. -/
structure Slides (extent : α → Extent) (place : Nat) (turn : α → α) (item : α) : Prop where
  /-- The extent slides. -/
  extent_eq : extent (turn item) = (extent item).slide place
  /-- The extent fits what it consumes. -/
  fits : (extent item).Fits

/-- Items whose extents slide compete as before. -/
theorem Slides.preserves {item other : α} (offered : Slides extent place turn item)
    (held : Slides extent place turn other) : Preserves extent extent turn item other := by
  constructor
  · rw [held.extent_eq, offered.extent_eq, Extent.slide_stop, Extent.slide_stop, slidePosition_inj]
  · intro same
    rw [held.extent_eq, offered.extent_eq]
    exact offered.fits.outranks_slide held.fits same.symm place

/-- Offering items and turning them is the same in either order. -/
theorem offerAll_map {held items : List α} (slides : ∀ item ∈ held, Slides extent place turn item)
    (offered : ∀ item ∈ items, Slides extent place turn item) :
    offerAll extent (held.map turn) (items.map turn) = (offerAll extent held items).map turn :=
  offerAll_turn _ (fun _ _ offered held => offered.preserves held) slides offered

end

namespace Candidate

mutual

/-- The candidate after a token has been put in at a place. -/
def slide (place : Nat) : Candidate → Candidate
  | ⟨element, extent, children⟩ => ⟨element, extent.slide place, slideAll place children⟩

/-- The candidates after a token has been put in at a place. -/
def slideAll (place : Nat) : List Candidate → List Candidate
  | [] => []
  | candidate :: rest => slide place candidate :: slideAll place rest

end

/-- Candidates slide each by itself. -/
theorem slideAll_eq_map (place : Nat) (candidates : List Candidate) :
    slideAll place candidates = candidates.map (slide place) := by
  induction candidates with
  | nil => rfl
  | cons candidate rest hypothesis => rw [slideAll, hypothesis, List.map_cons]

variable (place : Nat) (candidate : Candidate)

/-- The extent of a candidate slides with it. -/
@[simp] theorem slide_extent : (candidate.slide place).extent = candidate.extent.slide place := by
  cases candidate
  rfl

/-- Where a candidate stops slides with it. -/
@[simp] theorem slide_stop : (candidate.slide place).stop = slidePosition place candidate.stop := by
  cases candidate
  rfl

/-- A candidate consumes as much as before. -/
@[simp] theorem slide_consumed : (candidate.slide place).consumed = candidate.consumed := by
  cases candidate
  rfl

/-- A candidate starts with the token it started with, or is empty where it was. -/
theorem slide_start : (candidate.slide place).start =
    if candidate.start = candidate.stop then slidePosition place candidate.start
    else slideToken place candidate.start := by
  cases candidate
  rfl

/-- A candidate is empty when it was. -/
@[simp] theorem isEmpty_slide : (candidate.slide place).isEmpty = candidate.isEmpty := by
  rw [Bool.eq_iff_iff, isEmpty, isEmpty, decide_eq_true_eq, decide_eq_true_eq, slide_stop,
    slide_start]
  by_cases same : candidate.start = candidate.stop
  · simp [same]
  · rw [if_neg same, ← Nat.not_lt, ← Nat.not_lt, slideToken_lt_slidePosition_iff]

variable {place candidate}

/-- A candidate that is not empty starts with the token it started with. -/
theorem slide_start_of_filled (filled : candidate.isEmpty = false) :
    (candidate.slide place).start = slideToken place candidate.start := by
  rw [slide_start, if_neg]
  intro same
  simp [isEmpty, same] at filled

/-- The first candidate that is not empty is found as before. -/
theorem find?_slide (candidates : List Candidate) :
    ((candidates.map (slide place)).find? fun child => !child.isEmpty).map start =
      ((candidates.find? fun child => !child.isEmpty).map start).map (slideToken place) := by
  induction candidates with
  | nil => rfl
  | cons candidate rest hypothesis =>
    rw [List.map_cons, List.find?_cons, List.find?_cons, isEmpty_slide]
    cases empty : candidate.isEmpty with
    | true => exact hypothesis
    | false =>
      rw [Bool.not_false]
      exact congrArg some (slide_start_of_filled empty)

/-- A terminal slides if its tokens stay together. -/
theorem slide_terminal (element : Nat) {start stop : Nat} (filled : start < stop)
    (together : ¬ (start < place ∧ place < stop)) :
    (terminal element start stop).slide place =
      terminal element (slideToken place start) (slidePosition place stop) := by
  rw [terminal, slide, terminal, slide_width filled together, Extent.slide,
    if_neg (Nat.ne_of_lt filled)]
  rfl

end Candidate

namespace Chain

/-- The chain after a token has been put in at a place. -/
def slide (place : Nat) (chain : Chain) : Chain where
  start := chain.start.map (slideToken place)
  stop := slidePosition place chain.stop
  consumed := chain.consumed
  children := chain.children.map (Candidate.slide place)

/-- A chain may slide before it is extended or after. -/
theorem slide_extend (place : Nat) (chain : Chain) (candidate : Candidate) :
    (chain.extend candidate).slide place =
      (chain.slide place).extend (candidate.slide place) := by
  have start : ((chain.start.orElse fun _ =>
        if candidate.isEmpty then none else some candidate.start).map (slideToken place)) =
      ((chain.start.map (slideToken place)).orElse fun _ =>
        if (candidate.slide place).isEmpty then none else some (candidate.slide place).start) := by
    rw [Candidate.isEmpty_slide]
    cases chain.start with
    | some first => rfl
    | none =>
      cases empty : candidate.isEmpty with
      | true => rfl
      | false =>
        rw [Candidate.slide_start_of_filled empty]
        rfl
  simp only [slide, extend, start, Candidate.slide_stop, Candidate.slide_consumed, List.map_append,
    List.map_cons, List.map_nil]

end Chain

section

variable {grammar : Grammar} {budget : SkipBudget} {tokens : List Token} {elements : List Nat}
  {element position stop : Nat} {candidate : Candidate} {children : List Candidate} {chain : Chain}

/-- A sound candidate has its extent slide, and the extent fits. -/
theorem Candidate.Sound.slides (grounded : Grounded grammar.case grammar.elements)
    (sound : candidate.Sound grammar budget tokens element position stop) (place : Nat) :
    Slides Candidate.extent place (Candidate.slide place) candidate := by
  refine ⟨Candidate.slide_extent place candidate, ?_⟩
  rw [sound.extent_eq grounded]
  exact (sound.ordered grounded).fits

/-- A candidate of a chain that is not empty starts before the chain stops. -/
theorem Chained.start_lt_stop (grounded : Grounded grammar.case grammar.elements)
    (chained : Chained (Candidate.Sound grammar budget tokens) elements position children stop) :
    ∀ child ∈ children, child.isEmpty = false → child.start < stop := by
  induction chained with
  | nil position => simp
  | cons first rest hypothesis =>
    intro child member filled
    rcases List.mem_cons.1 member with rfl | later
    · have onward := (rest.leaves_ordered grounded).le_stop
      have stops := first.stop_eq grounded
      rw [Candidate.isEmpty, decide_eq_false_iff_not] at filled
      omega
    · exact hypothesis child later filled

/-- A sound chain has its extent slide, and the extent fits. -/
theorem Chain.Sound.slides (grounded : Grounded grammar.case grammar.elements)
    (sound : chain.Sound grammar budget tokens elements position) (place : Nat) :
    Slides Chain.extent place (Chain.slide place) chain := by
  constructor
  · cases found : chain.start with
    | none => simp [Chain.extent, Chain.slide, Extent.slide, found]
    | some first =>
      obtain ⟨child, shown, rfl⟩ := Option.map_eq_some_iff.1 (sound.start_eq.symm.trans found)
      have filled : child.isEmpty = false := by simpa using List.find?_some shown
      have before := sound.chained.start_lt_stop grounded child (List.mem_of_find?_eq_some shown)
        filled
      simp [Chain.extent, Chain.slide, Extent.slide, found, Nat.ne_of_lt before]
  · rw [sound.extent_eq grounded]
    exact (sound.ordered grounded).fits

/-- The extent of sound candidates in a chain slides with them. -/
theorem Chained.spanOf_slide (grounded : Grounded grammar.case grammar.elements)
    (chained : Chained (Candidate.Sound grammar budget tokens) elements position children stop)
    (place : Nat) :
    (Candidate.spanOf position children).slide place =
      Candidate.spanOf (slidePosition place position) (children.map (Candidate.slide place)) := by
  have last : ((children.map (Candidate.slide place)).getLast?.map Candidate.stop).getD
      (slidePosition place position) = slidePosition place stop := by
    rw [← chained.getLast?_stop grounded, List.getLast?_map, Option.map_map]
    cases children.getLast? with
    | none => rfl
    | some child => exact Candidate.slide_stop place child
  have consumed : (children.map (Candidate.slide place)).map Candidate.consumed =
      children.map Candidate.consumed := by
    rw [List.map_map]
    exact List.map_congr_left fun child _ => Candidate.slide_consumed place child
  simp only [Candidate.spanOf, chained.getLast?_stop grounded, last, consumed, Extent.slide,
    Candidate.find?_slide, slidePosition_inj]
  by_cases still : stop = position
  · simp [still]
  · cases found : children.find? fun child => !child.isEmpty with
    | none => exact absurd (chained.stop_eq_of_find?_eq_none grounded found) still
    | some child =>
      have filled : child.isEmpty = false := by simpa using List.find?_some found
      have before := chained.start_lt_stop grounded child (List.mem_of_find?_eq_some found) filled
      simp [still, Nat.ne_of_lt before]

/-- A candidate made of sound candidates slides with them. -/
theorem Chained.node_slide (grounded : Grounded grammar.case grammar.elements)
    (chained : Chained (Candidate.Sound grammar budget tokens) elements position children stop)
    (element place : Nat) :
    (Candidate.node element position children).slide place =
      .node element (slidePosition place position) (children.map (Candidate.slide place)) := by
  rw [Candidate.node, Candidate.slide, chained.spanOf_slide grounded, Candidate.slideAll_eq_map]
  rfl

/-- A candidate around one sound candidate slides with it. -/
theorem Candidate.Sound.node_slide (grounded : Grounded grammar.case grammar.elements)
    (sound : candidate.Sound grammar budget tokens element position stop) (parent place : Nat) :
    (Candidate.node parent position [candidate]).slide place =
      .node parent (slidePosition place position) [candidate.slide place] :=
  (Chained.cons sound (.nil stop)).node_slide grounded parent place

end

namespace Memo

/-- The memory after a token has been put in at a place. -/
def slide (place : Nat) (memo : Memo) : Memo where
  entries := memo.entries.map fun entry =>
    ((entry.1.1, slidePosition place entry.1.2), entry.2.map (Candidate.slide place))
  exhausted := memo.exhausted

/-- What is remembered for a pair is what was remembered for it. -/
theorem find?_slide (place : Nat) (memo : Memo) (element position : Nat) :
    (memo.slide place).find? element (slidePosition place position) =
      (memo.find? element position).map (List.map (Candidate.slide place)) := by
  rw [find?, find?, slide]
  induction memo.entries with
  | nil => rfl
  | cons entry rest hypothesis =>
    obtain ⟨⟨other, before⟩, found⟩ := entry
    have same : ((element, slidePosition place position) == (other, slidePosition place before)) =
        ((element, position) == (other, before)) := by
      rw [Bool.eq_iff_iff, beq_iff_eq, beq_iff_eq, Prod.mk.injEq, Prod.mk.injEq, slidePosition_inj]
    rw [List.map_cons, List.lookup_cons, List.lookup_cons, same, hypothesis]
    split <;> rfl

/-- A memory is full when it was. -/
theorem isFull_slide (place : Nat) (memo : Memo) (limit : Option Nat) :
    (memo.slide place).isFull limit = memo.isFull limit := by
  have size : (memo.slide place).size = memo.size := List.length_map _
  rw [isFull, isFull, size]

end Memo

end Utterance

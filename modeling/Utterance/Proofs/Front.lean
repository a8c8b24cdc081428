import Utterance.Proofs.Filler
import Utterance.Proofs.Reach

/-!
# Tokens in front

A token is foreign to a grammar when no terminal takes it (`Foreign`). With foreign tokens in front
of a sentence its matches are those of the sentence, moved, and back again (`Matches.back`,
`Matches.forth`): the search for a terminal from among the tokens in front ends no later than from
right behind them (`SkipBudget.searchLimit_le_add`).

An extent is clear when it is empty where it was searched for, or starts behind the tokens in front
(`Extent.Clear`). Clear candidates and chains compete as before when they move back, and what is
made of them moves back with them (`Candidate.node_back`, `Chain.Clear.toCandidate_back`).
-/
namespace Utterance

/-- Whether no terminal of a grammar takes a token: no pattern accepts it, and it is no word of a
literal member. -/
structure Foreign (grammar : Grammar) (token : Token) : Prop where
  /-- No pattern accepts the token. -/
  unaccepted : ∀ element matcher, kindOf? grammar.elements element = some (.pattern matcher) →
    matcher.accepts token.text = false
  /-- The token is no word of a literal member. -/
  unknown : ∀ element set, kindOf? grammar.elements element = some (.literals set) →
    ∀ member ∈ set.members,
      grammar.case.fold token.text ∉ (LiteralSet.memberWords member).map grammar.case.fold

/-- A token is foreign to a grammar when it is noise by itself. -/
theorem foreign_iff {grammar : Grammar} {token : Token} :
    Foreign grammar token ↔ Inert grammar [] token 0 := by
  constructor
  · intro foreign
    refine ⟨Nat.le_refl _, foreign.unaccepted, foreign.unknown, ?_⟩
    exact fun _ _ _ start stop _ divided => absurd divided.1 (Nat.not_lt_zero start)
  · exact fun inert => ⟨inert.unaccepted, inert.unknown⟩

instance (grammar : Grammar) (token : Token) : Decidable (Foreign grammar token) :=
  decidable_of_iff _ foreign_iff.symm

namespace SkipBudget

variable {ahead length : Nat}

/-- The search for a terminal ends where it would, as many tokens later as there are in front. -/
theorem searchLimit_add (countable : ahead + length ≤ maxCount) (budget : SkipBudget)
    (position : Nat) :
    budget.searchLimit (ahead + position) (ahead + length) =
      ahead + budget.searchLimit position length := by
  cases budget with
  | unlimited => rfl
  | limited count =>
    rw [searchLimit, searchLimit]
    generalize maxCount = most at countable ⊢
    omega

/-- The search for a terminal from among the tokens in front ends no later than from behind them. -/
theorem searchLimit_le_add (countable : ahead + length ≤ maxCount) (budget : SkipBudget)
    (position : Nat) :
    budget.searchLimit position (ahead + length) ≤
      ahead + budget.searchLimit (position - ahead) length := by
  cases budget with
  | unlimited => exact Nat.le_refl _
  | limited count =>
    rw [searchLimit, searchLimit]
    generalize maxCount = most at countable ⊢
    omega

end SkipBudget

namespace Leaf

/-- The leaf without the tokens in front. -/
def back (ahead : Nat) (leaf : Leaf) : Leaf := ⟨leaf.start - ahead, leaf.stop - ahead⟩

/-- The leaf behind tokens in front. -/
def forth (ahead : Nat) (leaf : Leaf) : Leaf := ⟨ahead + leaf.start, ahead + leaf.stop⟩

end Leaf

/-- Items may be changed and their places be moved, if what holds of each is kept. -/
theorem Chained.relocate {α β : Type} {holds : Nat → Nat → α → Nat → Prop}
    {implied : Nat → Nat → β → Nat → Prop} {elements : List Nat} {position stop : Nat}
    {items : List α} (place : Nat → Nat) (change : α → β)
    (chained : Chained holds elements position items stop)
    (each : ∀ element ∈ elements, ∀ position item stop, holds element position item stop →
      implied element (place position) (change item) (place stop)) :
    Chained implied elements (place position) (items.map change) (place stop) := by
  induction chained with
  | nil position => exact .nil _
  | cons first rest hypothesis =>
    exact .cons (each _ List.mem_cons_self _ _ _ first)
      (hypothesis fun element member => each element (List.mem_cons_of_mem _ member))

section

variable {grammar : Grammar} {budget : SkipBudget} {fillers tokens : List Token} {kind : Kind}
  {element position start stop : Nat} {leaves : List Leaf}

/-- A terminal covers the tokens behind others that it covers without them. -/
theorem Kind.covers_append (case : CasePolicy) (fillers tokens : List Token) (kind : Kind)
    (start stop : Nat) :
    kind.Covers case (fillers ++ tokens) (fillers.length + start) (fillers.length + stop) ↔
      kind.Covers case tokens start stop := by
  cases kind with
  | literals set =>
    have width : fillers.length + stop - (fillers.length + start) = stop - start := by omega
    simp only [Covers, width, List.drop_append, List.drop_of_length_le (Nat.le_add_right _ start),
      List.nil_append, Nat.add_sub_cancel_left, Nat.add_assoc, Nat.add_left_cancel_iff]
  | pattern matcher =>
    have there : (fillers ++ tokens)[fillers.length + start]? = tokens[start]? := by
      rw [List.getElem?_append_right (Nat.le_add_right _ _), Nat.add_sub_cancel_left]
    simp only [Covers, there, Nat.add_assoc, Nat.add_left_cancel_iff]
  | sequence children => exact Iff.rfl
  | choice children => exact Iff.rfl
  | optional inner => exact Iff.rfl
  | repetition inner min max => exact Iff.rfl

/-- A terminal covers none of the tokens in front, if they are foreign. -/
theorem Foreign.length_le (grounded : Grounded grammar.case grammar.elements)
    (foreign : ∀ filler ∈ fillers, Foreign grammar filler)
    (present : kindOf? grammar.elements element = some kind)
    (covers : kind.Covers grammar.case (fillers ++ tokens) start stop) :
    fillers.length ≤ start := by
  by_contra early
  have before : start < fillers.length := Nat.lt_of_not_le early
  have there : (fillers ++ tokens)[start]? = some fillers[start] := by
    rw [List.getElem?_append_left before, List.getElem?_eq_getElem before]
  have strange := foreign fillers[start] (List.getElem_mem before)
  cases kind with
  | literals set =>
    have filled := (covers.bounds (grounded.admissible _ _ present)).1
    obtain ⟨member, stored, width, equal⟩ := covers
    have word : grammar.case.fold fillers[start].text ∈
        (LiteralSet.memberWords member).map grammar.case.fold := by
      rw [← equal]
      refine List.mem_map_of_mem (f := fun token : Token => grammar.case.fold token.text) ?_
      refine List.mem_of_getElem? (i := 0) ?_
      rw [List.getElem?_take, if_pos (by omega), List.getElem?_drop]
      exact there
    exact strange.unknown element set present member stored word
  | pattern matcher =>
    obtain ⟨-, token, found, accepted⟩ := covers
    rw [there, Option.some.injEq] at found
    rw [← found, strange.unaccepted element matcher present] at accepted
    exact absurd accepted (by simp)
  | sequence children => exact covers.elim
  | choice children => exact covers.elim
  | optional inner => exact covers.elim
  | repetition inner min max => exact covers.elim

/-- The leaves of a match are behind the tokens in front, if these are foreign. -/
theorem Matches.length_le (grounded : Grounded grammar.case grammar.elements)
    (foreign : ∀ filler ∈ fillers, Foreign grammar filler)
    (matched : Matches grammar budget (fillers ++ tokens) element position leaves stop) :
    ∀ leaf ∈ leaves, fillers.length ≤ leaf.start :=
  matched.forall_leaf grounded fun _ _ _ _ present covers =>
    Foreign.length_le grounded foreign present covers

/-- A match is one without the tokens in front, if these are foreign. -/
theorem Matches.back (grounded : Grounded grammar.case grammar.elements)
    (foreign : ∀ filler ∈ fillers, Foreign grammar filler)
    (countable : fillers.length + tokens.length ≤ maxCount)
    (matched : Matches grammar budget (fillers ++ tokens) element position leaves stop) :
    Matches grammar budget tokens element (position - fillers.length)
      (leaves.map (Leaf.back fillers.length)) (stop - fillers.length) := by
  refine Matches.induction (motive := fun element position leaves stop =>
    Matches grammar budget tokens element (position - fillers.length)
      (leaves.map (Leaf.back fillers.length)) (stop - fillers.length))
    grounded ?_ ?_ ?_ ?_ ?_ ?_ matched
  · intro element position start stop kind present after near covers
    have behind := Foreign.length_le grounded foreign present covers
    have filled := (covers.bounds (grounded.admissible _ _ present)).1
    have reach := budget.searchLimit_le_add countable position
    have within : start - fillers.length <
        budget.searchLimit (position - fillers.length) tokens.length := by
      rw [List.length_append] at near
      omega
    have moved : kind.Covers grammar.case tokens (start - fillers.length)
        (stop - fillers.length) := by
      rw [← Kind.covers_append grammar.case fillers, Nat.add_sub_cancel' behind,
        Nat.add_sub_cancel' (by omega)]
      exact covers
    exact .terminal present (Nat.sub_le_sub_right after _) within moved
  · intro element position stop children parts present chained
    rw [List.map_flatten]
    exact .sequence present (chained.relocate (· - fillers.length) _ fun _ _ _ _ _ inside => inside)
  · intro element position child stop children leaves present member inside
    exact .choice present member inside
  · intro element position inner stop leaves present inside
    exact .optional present inside
  · intro element position inner present
    exact .omitted present
  · intro element position inner min count stop max parts present enough few chained
    rw [List.map_flatten]
    exact .repetition present enough few
      (chained.relocate (· - fillers.length) _ fun _ _ _ _ _ inside => inside)

/-- A match is one behind tokens in front. -/
theorem Matches.forth (grounded : Grounded grammar.case grammar.elements)
    (countable : fillers.length + tokens.length ≤ maxCount)
    (matched : Matches grammar budget tokens element position leaves stop) :
    Matches grammar budget (fillers ++ tokens) element (fillers.length + position)
      (leaves.map (Leaf.forth fillers.length)) (fillers.length + stop) := by
  refine Matches.induction (motive := fun element position leaves stop =>
    Matches grammar budget (fillers ++ tokens) element (fillers.length + position)
      (leaves.map (Leaf.forth fillers.length)) (fillers.length + stop))
    grounded ?_ ?_ ?_ ?_ ?_ ?_ matched
  · intro element position start stop kind present after near covers
    have reach := budget.searchLimit_add countable position
    refine .terminal present (Nat.add_le_add_left after _) ?_
      ((Kind.covers_append grammar.case fillers tokens kind start stop).2 covers)
    rw [List.length_append, reach]
    exact Nat.add_lt_add_left near _
  · intro element position stop children parts present chained
    rw [List.map_flatten]
    exact .sequence present (chained.relocate (fillers.length + ·) _ fun _ _ _ _ _ inside => inside)
  · intro element position child stop children leaves present member inside
    exact .choice present member inside
  · intro element position inner stop leaves present inside
    exact .optional present inside
  · intro element position inner present
    exact .omitted present
  · intro element position inner min count stop max parts present enough few chained
    rw [List.map_flatten]
    exact .repetition present enough few
      (chained.relocate (fillers.length + ·) _ fun _ _ _ _ _ inside => inside)

end

namespace Extent

/-- The extent without the tokens in front. -/
def back (ahead : Nat) (extent : Extent) : Extent :=
  ⟨extent.start - ahead, extent.stop - ahead, extent.consumed⟩

/-- The extent behind tokens in front. -/
def forth (ahead : Nat) (extent : Extent) : Extent :=
  ⟨ahead + extent.start, ahead + extent.stop, extent.consumed⟩

/-- Whether an extent that was searched for from a position is empty there, or starts behind the
tokens in front. -/
def Clear (ahead position : Nat) (extent : Extent) : Prop :=
  (extent.start = position ∧ extent.stop = position) ∨
    (ahead ≤ extent.start ∧ position ≤ extent.start ∧ extent.start < extent.stop)

namespace Clear

variable {ahead position : Nat} {extent left right : Extent}

/-- Extents that were searched for from one position stop at different places when they did. -/
theorem level (leftClear : left.Clear ahead position) (rightClear : right.Clear ahead position) :
    (left.back ahead).stop = (right.back ahead).stop ↔ left.stop = right.stop := by
  unfold Clear at leftClear rightClear
  show left.stop - ahead = right.stop - ahead ↔ left.stop = right.stop
  omega

/-- There is as much noise inside without the tokens in front. -/
theorem noise_back (clear : extent.Clear ahead position) :
    (extent.back ahead).noise = extent.noise := by
  unfold Clear at clear
  show extent.stop - ahead - (extent.start - ahead) - extent.consumed =
    extent.stop - extent.start - extent.consumed
  omega

/-- Extents are ranked as before without the tokens in front. -/
theorem outranks_back (leftClear : left.Clear ahead position)
    (rightClear : right.Clear ahead position) :
    (left.back ahead).outranks (right.back ahead) = left.outranks right := by
  rw [outranks, outranks, leftClear.noise_back, rightClear.noise_back]
  rfl

end Clear

end Extent

/-- Leaves that start behind the tokens in front have a clear extent. -/
theorem Leaf.Ordered.clear {ahead position stop : Nat} {leaves : List Leaf}
    (ordered : Leaf.Ordered position leaves stop)
    (behind : ∀ leaf ∈ leaves, ahead ≤ leaf.start) :
    (Leaf.extent position leaves).Clear ahead position := by
  cases leaves with
  | nil => exact Or.inl ⟨rfl, rfl⟩
  | cons leaf rest =>
    have first : ahead ≤ leaf.start := behind leaf List.mem_cons_self
    have within : leaf.stop ≤ stop := ordered.2.2.le_stop
    refine Or.inr ⟨first, ordered.1, ?_⟩
    rw [ordered.extent_stop, Leaf.extent_cons_start]
    exact Nat.lt_of_lt_of_le ordered.2.1 within

namespace Candidate

mutual

/-- The candidate without the tokens in front. -/
def back (ahead : Nat) : Candidate → Candidate
  | ⟨element, extent, children⟩ => ⟨element, extent.back ahead, backAll ahead children⟩

/-- The candidates without the tokens in front. -/
def backAll (ahead : Nat) : List Candidate → List Candidate
  | [] => []
  | candidate :: rest => back ahead candidate :: backAll ahead rest

end

/-- Candidates move back each by itself. -/
theorem backAll_eq_map (ahead : Nat) (candidates : List Candidate) :
    backAll ahead candidates = candidates.map (back ahead) := by
  induction candidates with
  | nil => rfl
  | cons candidate rest hypothesis => rw [backAll, hypothesis, List.map_cons]

variable {ahead element position : Nat} {candidate : Candidate} {children : List Candidate}

/-- The extent of a candidate moves back with it. -/
@[simp] theorem back_extent (ahead : Nat) (candidate : Candidate) :
    (candidate.back ahead).extent = candidate.extent.back ahead := by
  cases candidate
  rfl

/-- Where a candidate stops moves back with it. -/
@[simp] theorem back_stop (ahead : Nat) (candidate : Candidate) :
    (candidate.back ahead).stop = candidate.stop - ahead := by
  cases candidate
  rfl

/-- Where a candidate starts moves back with it. -/
@[simp] theorem back_start (ahead : Nat) (candidate : Candidate) :
    (candidate.back ahead).start = candidate.start - ahead := by
  cases candidate
  rfl

/-- A candidate consumes as much as before. -/
@[simp] theorem back_consumed (ahead : Nat) (candidate : Candidate) :
    (candidate.back ahead).consumed = candidate.consumed := by
  cases candidate
  rfl

/-- Whether a candidate that is not empty stops behind the tokens in front. -/
def Behind (ahead : Nat) (candidate : Candidate) : Prop :=
  candidate.isEmpty = false → ahead < candidate.stop

/-- A candidate with a clear extent stops behind the tokens in front or is empty. -/
theorem behind_of_clear (clear : candidate.extent.Clear ahead position) :
    candidate.Behind ahead := by
  intro filled
  rw [isEmpty, decide_eq_false_iff_not] at filled
  have start : candidate.start = candidate.extent.start := rfl
  have stop : candidate.stop = candidate.extent.stop := rfl
  unfold Extent.Clear at clear
  omega

/-- A candidate is empty when it was. -/
theorem Behind.isEmpty_back (behind : candidate.Behind ahead) :
    (candidate.back ahead).isEmpty = candidate.isEmpty := by
  cases empty : candidate.isEmpty with
  | true =>
    rw [isEmpty, decide_eq_true_eq] at empty
    rw [isEmpty, decide_eq_true_eq, back_stop, back_start]
    exact Nat.sub_le_sub_right empty ahead
  | false =>
    have further : ahead < candidate.stop := behind empty
    rw [isEmpty, decide_eq_false_iff_not] at empty
    rw [isEmpty, decide_eq_false_iff_not, back_stop, back_start]
    omega

/-- The first candidate that is not empty is found as before. -/
theorem find?_back (behind : ∀ child ∈ children, child.Behind ahead) :
    ((children.map (back ahead)).find? fun child => !child.isEmpty).map start =
      ((children.find? fun child => !child.isEmpty).map start).map (· - ahead) := by
  induction children with
  | nil => rfl
  | cons child rest hypothesis =>
    have first : (child.back ahead).isEmpty = child.isEmpty :=
      (behind child List.mem_cons_self).isEmpty_back
    have others := hypothesis fun other member => behind other (List.mem_cons_of_mem _ member)
    rw [List.map_cons, List.find?_cons, List.find?_cons, first]
    cases child.isEmpty with
    | true => exact others
    | false => exact congrArg some (back_start ahead child)

/-- A candidate around others moves back with them, if the last one stops at its position or behind
the tokens in front. -/
theorem node_back (behind : ∀ child ∈ children, child.Behind ahead) {last : Nat}
    (stops : (children.getLast?.map stop).getD position = last)
    (clear : last = position ∨ ahead < last) (element : Nat) :
    (node element position children).back ahead =
      node element (position - ahead) (children.map (back ahead)) := by
  have moved : ((children.map (back ahead)).getLast?.map stop).getD (position - ahead) =
      last - ahead := by
    rw [← stops, List.getLast?_map, Option.map_map]
    cases children.getLast? with
    | none => rfl
    | some child => exact back_stop ahead child
  have consumed : (children.map (back ahead)).map Candidate.consumed =
      children.map Candidate.consumed := by
    rw [List.map_map]
    exact List.map_congr_left fun child _ => back_consumed ahead child
  have same : last - ahead = position - ahead ↔ last = position := by omega
  have extent : (spanOf position children).back ahead =
      spanOf (position - ahead) (children.map (back ahead)) := by
    simp only [spanOf, stops, moved, consumed, find?_back behind, same, Extent.back]
    by_cases still : last = position
    · rw [if_pos still, if_pos still]
    · rw [if_neg still, if_neg still]
      cases (children.find? fun child => !child.isEmpty).map start with
      | none => rfl
      | some first => rfl
  rw [node, back, extent, backAll_eq_map]
  rfl

/-- Candidates move back before they are put inside an element or after. -/
theorem map_node_back {candidates : List Candidate}
    (clear : ∀ candidate ∈ candidates, candidate.extent.Clear ahead position) (element : Nat) :
    (candidates.map fun candidate => node element position [candidate]).map (back ahead) =
      (candidates.map (back ahead)).map fun candidate =>
        node element (position - ahead) [candidate] := by
  rw [List.map_map, List.map_map]
  refine List.map_congr_left fun candidate member => ?_
  have behind : ∀ child ∈ [candidate], child.Behind ahead := by
    intro child listed
    rw [List.mem_singleton.1 listed]
    exact behind_of_clear (clear candidate member)
  have stops : candidate.extent.stop = position ∨ ahead < candidate.extent.stop := by
    have cases := clear candidate member
    unfold Extent.Clear at cases
    omega
  exact node_back behind rfl stops element

end Candidate

namespace Chain

/-- The chain without the tokens in front. -/
def back (ahead : Nat) (chain : Chain) : Chain where
  start := chain.start.map (· - ahead)
  stop := chain.stop - ahead
  consumed := chain.consumed
  children := chain.children.map (Candidate.back ahead)

variable {ahead position : Nat} {chain : Chain} {candidate : Candidate}

/-- The extent of a chain moves back with it. -/
theorem back_extent (ahead : Nat) (chain : Chain) :
    (chain.back ahead).extent = chain.extent.back ahead := by
  cases start : chain.start with
  | none => simp [back, extent, Extent.back, start]
  | some first => simp [back, extent, Extent.back, start]

/-- A chain may move back before it is extended or after. -/
theorem back_extend (behind : candidate.Behind ahead) (chain : Chain) :
    (chain.extend candidate).back ahead = (chain.back ahead).extend (candidate.back ahead) := by
  have start : ((chain.start.orElse fun _ =>
        if candidate.isEmpty then none else some candidate.start).map (· - ahead)) =
      ((chain.start.map (· - ahead)).orElse fun _ =>
        if (candidate.back ahead).isEmpty then none else some (candidate.back ahead).start) := by
    rw [behind.isEmpty_back, Candidate.back_start]
    cases chain.start with
    | some first => rfl
    | none =>
      cases candidate.isEmpty with
      | true => rfl
      | false => rfl
  simp only [back, extend, start, Candidate.back_stop, Candidate.back_consumed, List.map_append,
    List.map_cons, List.map_nil]

/-- Whether a chain that was searched for from a position is empty there, or starts behind the
tokens in front, and so do its candidates. -/
structure Clear (ahead position : Nat) (chain : Chain) : Prop where
  /-- The chain stops with its last candidate. -/
  last : (chain.children.getLast?.map Candidate.stop).getD position = chain.stop
  /-- Candidates stop behind the tokens in front or are empty. -/
  behind : ∀ child ∈ chain.children, child.Behind ahead
  /-- Without a start the chain stops at its position. -/
  still : chain.start = none → chain.stop = position
  /-- A start is behind the tokens in front, and the chain goes on from there. -/
  started : ∀ first, chain.start = some first →
    ahead ≤ first ∧ position ≤ first ∧ first < chain.stop

namespace Clear

/-- The chain without matches is clear. -/
theorem empty (ahead position : Nat) : (Chain.empty position).Clear ahead position :=
  ⟨rfl, by simp [Chain.empty], fun _ => rfl, by simp [Chain.empty]⟩

/-- A clear chain has a clear extent. -/
theorem extent (clear : chain.Clear ahead position) : chain.extent.Clear ahead position := by
  cases start : chain.start with
  | none =>
    have stop := clear.still start
    exact Or.inl (by simp [Chain.extent, start, stop])
  | some first =>
    have bounds := clear.started first start
    exact Or.inr (by simpa [Chain.extent, start] using bounds)

/-- A clear chain stops at its position or behind the tokens in front, and no earlier than at its
position. -/
theorem stop_cases (clear : chain.Clear ahead position) :
    chain.stop = position ∨ (ahead < chain.stop ∧ position < chain.stop) := by
  cases start : chain.start with
  | none => exact Or.inl (clear.still start)
  | some first =>
    have bounds := clear.started first start
    exact Or.inr (by omega)

/-- A clear chain that is extended by a clear candidate is clear. -/
theorem extend (clear : chain.Clear ahead position)
    (candidate_clear : candidate.extent.Clear ahead chain.stop) :
    (chain.extend candidate).Clear ahead position := by
  have behind : candidate.Behind ahead := Candidate.behind_of_clear candidate_clear
  have start : candidate.start = candidate.extent.start := rfl
  have stop : candidate.stop = candidate.extent.stop := rfl
  have cases := clear.stop_cases
  have empty : candidate.isEmpty = true ↔ candidate.stop ≤ candidate.start := by
    rw [Candidate.isEmpty, decide_eq_true_eq]
  unfold Extent.Clear at candidate_clear
  refine ⟨?_, ?_, ?_, ?_⟩
  · simp [Chain.extend]
  · intro child member
    rcases List.mem_append.1 member with earlier | last
    · exact clear.behind child earlier
    · rw [List.mem_singleton.1 last]
      exact behind
  · intro none
    cases found : chain.start with
    | some first => simp [Chain.extend, found] at none
    | none =>
      have hollow : candidate.isEmpty = true := by simpa [Chain.extend, found] using none
      have before := clear.still found
      show candidate.stop = position
      rw [empty] at hollow
      omega
  · intro first started
    show ahead ≤ first ∧ position ≤ first ∧ first < candidate.stop
    cases found : chain.start with
    | some other =>
      have same : other = first := by simpa [Chain.extend, found] using started
      have bounds := clear.started other found
      omega
    | none =>
      by_cases hollow : candidate.isEmpty = true
      · simp [Chain.extend, found, hollow] at started
      · have same : candidate.start = first := by simpa [Chain.extend, found, hollow] using started
        rw [empty] at hollow
        omega

/-- A clear chain moves back before it is made a candidate or after. -/
theorem toCandidate_back (clear : chain.Clear ahead position) (element : Nat) :
    (chain.toCandidate element position).back ahead =
      (chain.back ahead).toCandidate element (position - ahead) := by
  refine Candidate.node_back clear.behind clear.last ?_ element
  exact clear.stop_cases.imp_right And.left

/-- A clear chain is made a candidate that stops where it does. -/
theorem stop_toCandidate (clear : chain.Clear ahead position) (element : Nat) :
    (chain.toCandidate element position).stop = chain.stop := clear.last

/-- A clear chain that has moved back is made a candidate that stops where it does. -/
theorem stop_toCandidate_back (clear : chain.Clear ahead position) (element : Nat) :
    ((chain.back ahead).toCandidate element (position - ahead)).stop = (chain.back ahead).stop := by
  rw [← clear.toCandidate_back element, Candidate.back_stop, clear.stop_toCandidate element]
  rfl

end Clear

/-- Clear chains move back before they are made candidates or after. -/
theorem map_toCandidate_back {chains : List Chain}
    (clear : ∀ chain ∈ chains, chain.Clear ahead position) (element : Nat) :
    (chains.map (toCandidate element position)).map (Candidate.back ahead) =
      (chains.map (back ahead)).map (toCandidate element (position - ahead)) := by
  rw [List.map_map, List.map_map]
  exact List.map_congr_left fun chain member => (clear chain member).toCandidate_back element

end Chain

section

variable {grammar : Grammar} {budget : SkipBudget} {fillers tokens : List Token}
  {element position stop : Nat} {candidate : Candidate}

/-- A sound candidate has a clear extent, if the tokens in front are foreign. -/
theorem Candidate.Sound.clear (grounded : Grounded grammar.case grammar.elements)
    (foreign : ∀ filler ∈ fillers, Foreign grammar filler)
    (sound : candidate.Sound grammar budget (fillers ++ tokens) element position stop) :
    candidate.extent.Clear fillers.length position := by
  rw [sound.extent_eq grounded]
  exact (sound.ordered grounded).clear ((sound.reads grounded).matched.length_le grounded foreign)

end

end Utterance

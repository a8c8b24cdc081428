import Utterance.Proofs.EmptyMatches
import Utterance.Proofs.Prospect
import Utterance.Proofs.Shortage
import Utterance.Proofs.WordOrder

/-!
# The order of preference does not depend on ranks

A candidate that is better than one before it, with the same stop, takes its slot. So candidates
that are found late move to the front of a list, and the lists that are made of them hold other
matches than they would without. Where they stop, in order, stays the same: `Search.stops` is a
search that knows nothing but stops, keeps each where it is met first and drops it later on. The
stops of the candidates are those of this search (`Grammar.ranks_leave_the_order`), for each kind of
element because they are for its children (`Search.map_stop_afresh`).
-/
namespace Utterance

/-- A list without repetitions has none to leave out. -/
theorem eraseDups_eq_self {α : Type} [BEq α] [LawfulBEq α] {entries : List α}
    (distinct : entries.Nodup) : entries.eraseDups = entries := by
  induction entries with
  | nil => rfl
  | cons entry rest hypothesis =>
    obtain ⟨fresh, others⟩ := List.nodup_cons.1 distinct
    have kept : rest.filter (fun other => !other == entry) = rest := by
      refine List.filter_eq_self.2 fun other member => ?_
      have apart : other ≠ entry := fun same => fresh (same ▸ member)
      simpa using apart
    rw [List.eraseDups_cons, kept, hypothesis others]

/-- An entry that is listed before may be left out. -/
theorem eraseDups_append_cons_of_mem {α : Type} [BEq α] [LawfulBEq α] {entries : List α} {entry : α}
    (known : entry ∈ entries) (rest : List α) :
    (entries ++ entry :: rest).eraseDups = (entries ++ rest).eraseDups := by
  rw [List.eraseDups_append, List.eraseDups_append, List.removeAll, List.removeAll,
    List.filter_cons_of_neg (by simpa using known)]

section

variable {α : Type} (extent : α → Extent)

/-- An offer adds a stop at the end unless it is there, whatever becomes of the item. -/
theorem map_stop_offer (item : α) (held : List α) :
    (offer extent item held).map (fun item => (extent item).stop) =
      if (extent item).stop ∈ held.map fun item => (extent item).stop
        then held.map fun item => (extent item).stop
        else held.map (fun item => (extent item).stop) ++ [(extent item).stop] := by
  induction held with
  | nil => rfl
  | cons first rest hypothesis =>
    rw [offer]
    by_cases level : (extent first).stop = (extent item).stop
    · -- The slot is taken or not, but what stands in it stops where the item does.
      have taken : (extent (if (extent item).outranks (extent first) then item else first)).stop =
          (extent first).stop := by
        split
        · exact level.symm
        · rfl
      rw [if_pos level, List.map_cons, taken, if_pos (by simp [level]), List.map_cons]
    · have elsewhere : (extent item).stop ∈ (first :: rest).map (fun item => (extent item).stop) ↔
          (extent item).stop ∈ rest.map fun item => (extent item).stop := by
        rw [List.map_cons, List.mem_cons]
        exact or_iff_right fun same => level same.symm
      rw [if_neg level, List.map_cons, hypothesis]
      simp only [elsewhere]
      split <;> rfl

/-- Offers add the stops that are new, in the order in which they come first. -/
theorem map_stop_offerAll_of_held {held : List α} (items : List α)
    (distinct : (held.map fun item => (extent item).stop).Nodup) :
    (offerAll extent held items).map (fun item => (extent item).stop) =
      (held.map (fun item => (extent item).stop) ++
        items.map fun item => (extent item).stop).eraseDups := by
  induction items generalizing held with
  | nil =>
    rw [List.map_nil, List.append_nil, eraseDups_eq_self distinct]
    rfl
  | cons item rest hypothesis =>
    have first := map_stop_offer extent item held
    have others := @hypothesis (offer extent item held)
    rw [first] at others
    rw [offerAll, List.foldl_cons, ← offerAll, List.map_cons]
    by_cases known : (extent item).stop ∈ held.map fun item => (extent item).stop
    · rw [if_pos known] at others
      rw [others distinct, eraseDups_append_cons_of_mem known]
    · rw [if_neg known, ← List.concat_eq_append] at others
      rw [others (distinct.concat known), List.concat_append]

/-- Items that are offered in turn stop where they would without ranks, each stop where it comes
first. -/
theorem map_stop_offerAll (items : List α) :
    (offerAll extent [] items).map (fun item => (extent item).stop) =
      (items.map fun item => (extent item).stop).eraseDups :=
  map_stop_offerAll_of_held extent items List.nodup_nil

end

/-- Giving what another program gives passes on to programs that go on in the same way. -/
theorem Follows.congruence {σ : Type} (kept : σ → Prop) :
    Congruence fun (α : Type) (program : StateM σ α) (pattern : Id α) =>
      Follows kept (fun _ => True) program pattern where
  pure _ := .pure True.intro
  bind first rest := first.bind fun value _ => rest value

namespace Search

/-- The stops that some number of matches one after another lead to, each of which moves on. -/
def strides (answer : Nat → List Nat) (position : Nat) : (count : Nat) → List Nat
  | 0 => [position]
  | count + 1 => ((strides answer position count).flatMap fun stop =>
      (answer stop).filter (· ≠ stop)).eraseDups

/-- The stops of an element, given those of its children: a terminal starts at the nearest token
first; a sequence goes on from each stop in turn; a choice has the stops of its alternatives in
turn, or the farthest first if so configured; an optional element has its position last; a
repetition has the stops that the highest number of occurrences leads to first. No stop is listed
again. -/
def stopsStep (search : Search) (answer : Nat → Nat → List Nat) (element position : Nat) :
    List Nat :=
  match kindOf? search.elements element with
  | none => []
  | some (.sequence children) =>
    children.foldl (fun stops child => (stops.flatMap (answer child)).eraseDups) [position]
  | some (.choice children) =>
    let stops := (children.flatMap fun child => answer child position).eraseDups
    match search.order with
    | .declared => stops
    | .longest => stops.mergeSort fun left right => right ≤ left
  | some (.optional inner) =>
    let stops := answer inner position
    if position ∈ stops then stops else stops ++ [position]
  | some (.repetition inner min max) =>
    let least := if elementNullable search.elements inner then 0 else min
    let left := search.length - position
    let most := max.elim left (Nat.min left)
    (((List.range (most + 1)).reverse.filter (least ≤ ·)).flatMap
      (strides (answer inner) position)).eraseDups
  | some terminal =>
    let starts := List.range' position (search.budget.searchLimit position search.length - position)
    (starts.flatMap (search.terminalEnds terminal)).eraseDups

/-- The stops of an element from a position, following children to a depth. -/
def stops (search : Search) : (depth : Nat) → (element position : Nat) → List Nat
  | 0, _, _ => []
  | depth + 1, element, position => search.stopsStep (stops search depth) element position

/-- The stops of the start symbol, given those from each position: with a limit on noise those from
the first token, then those from each further token that are not that token itself. -/
def rootStops (search : Search) (answer : Nat → List Nat) : List Nat :=
  match search.budget with
  | .unlimited => answer 0
  | .limited _ => (answer 0 ++ (List.range' 1 (search.length - 1)).flatMap fun position =>
      (answer position).filter (· ≠ position)).eraseDups

section

variable {found : Nat → Nat → List Candidate} {answer : Nat → Nat → List Nat}
  {inner position : Nat}

/-- Chains that grow stop where the answers lead to from where they stop, if what is kept shows in
the stops. -/
theorem map_stop_grow {child : Nat} {keep : Chain → Candidate → Bool} {passes : Nat → Nat → Bool}
    {chains : List Chain} (same : ∀ next, (found child next).map Candidate.stop = answer child next)
    (shows : ∀ chain ∈ chains, ∀ candidate ∈ found child chain.stop,
      keep chain candidate = passes chain.stop candidate.stop) :
    (grow found child keep chains).map Chain.stop =
      ((chains.map Chain.stop).flatMap fun stop =>
        (answer child stop).filter (passes stop)).eraseDups := by
  have offered := map_stop_offerAll Chain.extent (chains.flatMap fun chain =>
    ((found child chain.stop).filter (keep chain)).map chain.extend)
  refine offered.trans (congrArg List.eraseDups ?_)
  rw [List.map_flatMap, List.flatMap_map]
  refine List.flatMap_congr fun chain member => ?_
  rw [← same, List.filter_map, List.map_map, List.filter_congr (shows chain member)]
  rfl

/-- Chains that grow child after child stop where the answers lead to. -/
theorem map_stop_thread {children : List Nat}
    (same : ∀ child ∈ children, ∀ next,
      (found child next).map Candidate.stop = answer child next) (chains : List Chain) :
    (thread found children chains).map Chain.stop =
      children.foldl (fun stops child => (stops.flatMap (answer child)).eraseDups)
        (chains.map Chain.stop) := by
  induction children generalizing chains with
  | nil => rfl
  | cons child rest hypothesis =>
    have grown : (grow found child (fun _ _ => true) chains).map Chain.stop =
        ((chains.map Chain.stop).flatMap fun stop =>
          (answer child stop).filter fun _ => true).eraseDups :=
      map_stop_grow (same child List.mem_cons_self) fun _ _ _ _ => rfl
    simp only [List.filter_true] at grown
    rw [List.foldl_cons, ← grown]
    exact hypothesis (fun other member => same other (List.mem_cons_of_mem _ member)) _

/-- Chains of occurrences that move on stop where strides lead to. -/
theorem map_stop_rise {least : Nat}
    (same : ∀ next, (found inner next).map Candidate.stop = answer inner next)
    (moves : ∀ count, ∀ chain : Chain, ∀ candidate ∈ found inner chain.stop,
      advances least (count + 1) chain candidate = true ↔ candidate.stop ≠ chain.stop)
    (count : Nat) :
    (rise found inner least position count).map Chain.stop =
      strides (answer inner) position count := by
  induction count with
  | zero => rfl
  | succ count hypothesis =>
    rw [strides, ← hypothesis]
    refine map_stop_grow same fun chain _ candidate member => ?_
    rw [Bool.eq_iff_iff, moves count chain candidate member, decide_eq_true_eq]

/-- Chains as candidates stop where the chains do, in order. -/
theorem map_stop_toCandidates {chains : List Chain}
    (closed : ∀ chain ∈ chains, chain.Closed position) (element : Nat) :
    (chains.map (Chain.toCandidate element position)).map Candidate.stop =
      chains.map Chain.stop := by
  rw [List.map_map]
  exact List.map_congr_left closed

/-- Arranging the matches of a choice arranges their stops. -/
theorem map_stop_arrange (order : ChoiceOrder) (matched : List Candidate) :
    (order.arrange matched).map Candidate.stop =
      match order with
      | .declared => matched.map Candidate.stop
      | .longest => (matched.map Candidate.stop).mergeSort fun left right => right ≤ left := by
  cases order with
  | declared => rfl
  | longest => exact List.map_mergeSort fun _ _ _ _ => rfl

/-- An optional element stops where its child does, and last at its position. -/
theorem map_stop_withEmpty (element position : Nat) (candidates : List Candidate) :
    (withEmpty element position candidates).map Candidate.stop =
      if position ∈ candidates.map Candidate.stop then candidates.map Candidate.stop
        else candidates.map Candidate.stop ++ [position] := by
  have around : (candidates.map fun candidate => Candidate.node element position [candidate]).map
      Candidate.stop = candidates.map Candidate.stop := by
    rw [List.map_map]
    exact List.map_congr_left fun candidate _ => stop_node_singleton element position candidate
  have empty : (candidates.map fun candidate => Candidate.node element position [candidate]).any
      (·.stop == position) = true ↔ position ∈ candidates.map Candidate.stop := by
    rw [← around, List.any_eq_true, List.mem_map]
    simp only [beq_iff_eq]
  simp only [withEmpty, ← empty]
  split
  · exact around
  · rw [List.map_append, around]
    rfl

end

section

variable {grammar : Grammar} {options : MatchOptions} {tokens : List Token}
  {element inner position least min : Nat} {answer : Nat → Nat → List Nat}

/-- A repetition stops where strides lead to, the most strides first. -/
theorem map_stop_repetition (grounded : Grounded grammar.case grammar.elements) {max : Option Nat}
    (present : kindOf? grammar.elements element = some (.repetition inner min max))
    (same : ∀ next, ((Search.of grammar options tokens).afresh inner next).map Candidate.stop =
      answer inner next) :
    ((Search.of grammar options tokens).afresh element position).map Candidate.stop =
      (((List.range (max.elim (tokens.length - position)
        (Nat.min (tokens.length - position)) + 1)).reverse.filter
          ((if elementNullable grammar.elements inner then 0 else min) ≤ ·)).flatMap
            (strides (answer inner) position)).eraseDups := by
  obtain ⟨last, top⟩ : ∃ last, last = max.elim (tokens.length - position)
    (Nat.min (tokens.length - position)) := ⟨_, rfl⟩
  obtain ⟨least, minimum⟩ : ∃ least,
      least = if elementNullable grammar.elements inner then 0 else min := ⟨_, rfl⟩
  have few : ∀ bound, max = some bound → last ≤ bound := by
    rintro bound rfl
    exact top ▸ Nat.min_le_right _ _
  -- Either the bound is tried or no chain can be longer, so the levels tried make no difference.
  have enough : max = some last ∨ tokens.length - position ≤ last := by
    cases max with
    | none => exact Or.inr (Nat.le_of_eq top.symm)
    | some bound =>
      rcases Nat.le_total (tokens.length - position) bound with less | more
      · exact Or.inr (Nat.le_of_eq (top.trans (Nat.min_eq_left less)).symm)
      · exact Or.inl (congrArg some (top.trans (Nat.min_eq_right more)).symm)
  have levels : ∀ count,
      (rise (Search.of grammar options tokens).afresh inner least position count).map Chain.stop =
        strides (answer inner) position count :=
    map_stop_rise same fun count chain _ member => advances_iff grounded minimum count chain member
  have offered := map_stop_offerAll Chain.extent
    (reach (Search.of grammar options tokens).afresh inner least position last)
  rw [← minimum, ← top, afresh_repetition grounded present minimum few enough
      fun count many => rise_eq_nil_of_lt grounded minimum many,
    map_stop_toCandidates (forall_mem_offerAll fun _ => closed_of_mem_reach)]
  refine offered.trans (congrArg List.eraseDups ?_)
  rw [reach, List.map_flatMap]
  exact List.flatMap_congr fun count _ => levels count

/-- What is found for an element stops where the search for stops says, if what is found for its
children does. -/
theorem map_stop_afresh_of_children (grounded : Grounded grammar.case grammar.elements)
    (same : ∀ kind, kindOf? grammar.elements element = some kind → ∀ child ∈ kind.children,
      ∀ next, ((Search.of grammar options tokens).afresh child next).map Candidate.stop =
        answer child next) :
    ((Search.of grammar options tokens).afresh element position).map Candidate.stop =
      (Search.of grammar options tokens).stopsStep answer element position := by
  have terminal : ∀ kind, kindOf? grammar.elements element = some kind → kind.isTerminal = true →
      ((Search.of grammar options tokens).afresh element position).map Candidate.stop =
        (((Search.of grammar options tokens).starts position).flatMap
          ((Search.of grammar options tokens).terminalEnds kind)).eraseDups := by
    intro kind present direct
    rw [afresh_terminal grounded present direct]
    refine (map_stop_offerAll Candidate.extent _).trans (congrArg List.eraseDups ?_)
    rw [List.map_flatMap]
    refine List.flatMap_congr fun start _ => ?_
    rw [List.map_map]
    exact List.map_id _
  rw [stopsStep, of_elements]
  cases present : kindOf? grammar.elements element with
  | none =>
    rw [afresh_absent grounded present]
    rfl
  | some kind =>
    have children := same kind present
    cases kind with
    | literals set => exact terminal _ present rfl
    | pattern matcher => exact terminal _ present rfl
    | sequence ids =>
      have closed : ∀ chain ∈ [Chain.empty position], chain.Closed position := by
        simpa using closed_empty position
      rw [afresh_sequence grounded present, map_stop_toCandidates (closed_of_mem_thread closed)]
      exact map_stop_thread children [.empty position]
    | choice ids =>
      rw [afresh_choice grounded present, map_stop_arrange]
      have offered : (offerAll Candidate.extent [] (ids.flatMap fun child =>
          ((Search.of grammar options tokens).afresh child position).map fun candidate =>
            .node element position [candidate])).map Candidate.stop =
          (ids.flatMap fun child => answer child position).eraseDups := by
        refine (map_stop_offerAll Candidate.extent _).trans
          (congrArg List.eraseDups ?_)
        rw [List.map_flatMap]
        refine List.flatMap_congr fun child member => ?_
        rw [← children child member position, List.map_map]
        rfl
      rw [offered]
      rfl
    | optional inner =>
      rw [afresh_optional grounded present, map_stop_withEmpty,
        children inner List.mem_cons_self position]
    | repetition inner min max =>
      rw [of_length]
      exact map_stop_repetition grounded present (children inner List.mem_cons_self)

/-- What is found for an element stops where the search for stops says, to any depth that
suffices. -/
theorem map_stop_afresh (grounded : Grounded grammar.case grammar.elements) {depth : Nat}
    (position : Nat) (deep : element < depth) :
    ((Search.of grammar options tokens).afresh element position).map Candidate.stop =
      (Search.of grammar options tokens).stops depth element position := by
  induction depth generalizing element position with
  | zero => exact absurd deep (Nat.not_lt_zero _)
  | succ depth hypothesis =>
    refine map_stop_afresh_of_children grounded fun kind present child member next => ?_
    have earlier := grounded.child_lt present member
    exact hypothesis next (by omega)

/-- The roots, merged position by position, stop where the search for stops says. -/
theorem map_stop_rootStep (grounded : Grounded grammar.case grammar.elements)
    {answer : Nat → List Nat}
    (same : ∀ next, ((Search.of grammar options tokens).afresh grammar.root next).map
      Candidate.stop = answer next) :
    ((Search.of grammar options tokens).rootStep (told (Search.of grammar options tokens).afresh)
      .first grammar.root).run.map Candidate.stop =
        (Search.of grammar options tokens).rootStops answer := by
  rw [rootStops]
  cases budget : (Search.of grammar options tokens).budget with
  | unlimited =>
    rw [run_rootStep_unlimited budget]
    exact same 0
  | limited count =>
    have solved := afresh_solved grounded options tokens grammar.root
    rw [run_rootStep_limited budget, ← offerAll_flatMap]
    refine (map_stop_offerAll_of_held Candidate.extent _ (solved 0).distinct).trans
      (congrArg List.eraseDups (congrArg₂ List.append (same 0) ?_))
    rw [List.map_flatMap]
    refine List.flatMap_congr fun position _ => ?_
    have filled : ∀ candidate ∈ (Search.of grammar options tokens).afresh grammar.root position,
        (!candidate.isEmpty) = decide (candidate.stop ≠ position) := by
      intro candidate member
      have empty := ((solved position).sound candidate member).isEmpty_iff_stop_eq grounded
      rw [Bool.eq_iff_iff, Bool.not_eq_true', ← Bool.not_eq_true, empty, decide_eq_true_eq]
    rw [← same, List.filter_map, List.filter_congr filled]
    rfl

/-- Without a limit on memory every question is answered with what is found without memory, whatever
was asked before. -/
theorem candidatesAfter_none (grounded : Grounded grammar.case grammar.elements)
    (options : MatchOptions) (tokens : List Token) (asked : List (Nat × Nat))
    (element position : Nat) :
    (Search.of grammar options tokens).candidatesAfter none asked element position =
      (Search.of grammar options tokens).afresh element position := by
  have below : ∀ element kind, kindOf? grammar.elements element = some kind →
      ∀ child ∈ kind.children, child < element :=
    fun _ _ present child member => grounded.child_lt present member
  have inherits : (Search.of grammar options tokens).Inherits fun element position found =>
      found = (Search.of grammar options tokens).afresh element position := by
    intro solve element position solved
    have follows := (Follows.congruence _).step solve
      (told (Search.of grammar options tokens).afresh)
      (fun kind present child member next => (solved kind present child member next).imp
        fun _ known => ⟨known, True.intro⟩) position
    exact follows.imp fun _ both => both.1.trans (run_step_afresh below element position)
  have yields : ∀ element position, Yields
      (Memo.Holds fun element position found =>
        found = (Search.of grammar options tokens).afresh element position)
      (· = (Search.of grammar options tokens).afresh element position)
      ((Search.of grammar options tokens).candidates none element position) :=
    candidates_yields inherits below
      (fun element position missing => (afresh_absent grounded missing position).symm) (by simp)
  exact (yields element position _ (memoryAfter_holds yields asked)).1

/-- The stops of a terminal from a token on are those up to which it covers tokens, the farthest
first. -/
theorem terminalEnds_exact (grounded : Grounded grammar.case grammar.elements) {kind : Kind}
    (present : kindOf? grammar.elements element = some kind) (options : MatchOptions)
    (tokens : List Token) (start : Nat) :
    ((Search.of grammar options tokens).terminalEnds kind start).Pairwise (· > ·) ∧
      ∀ stop, stop ∈ (Search.of grammar options tokens).terminalEnds kind start ↔
        kind.Covers grammar.case tokens start stop := by
  have admissible := grounded.admissible _ _ present
  refine ⟨?_, Kind.mem_terminalEnds admissible options tokens start⟩
  cases kind with
  | literals set =>
    obtain ⟨-, members, rfl, -⟩ := admissible
    exact LiteralSet.pairwise_matchEnds _ members _ start
  | pattern matcher =>
    rw [terminalEnds]
    split
    · exact List.pairwise_singleton _ _
    · exact .nil
  | sequence _ | choice _ | optional _ | repetition _ _ _ => exact .nil

end

end Search

/-- In a grammar that was built, without a limit on memory, the order of preference does not depend
on ranks. Whatever was asked before, the candidates of an element from a position stop, in order,
where a search says that knows nothing but stops and lists each where it is met first; so do the
roots when they are not put in order of width, merged from all tokens in turn under a limit on
noise. That search takes the stops of a terminal from a token on the farthest first, and these are
the places up to which the terminal covers tokens. -/
theorem Grammar.ranks_leave_the_order {declaration : Declaration} {grammar : Grammar}
    (built : declaration.build = .ok grammar) {options : MatchOptions}
    (unlimited : options.maxMemoEntries = none) (tokens : List Token) :
    let search := Search.of grammar options tokens
    (∀ asked element position, ∀ depth > element,
      (search.candidatesAfter options.maxMemoEntries asked element position).map Candidate.stop =
        search.stops depth element position) ∧
    (options.mode = .first → ∀ depth > grammar.root,
      (grammar.roots options tokens).map Candidate.stop =
        search.rootStops (search.stops depth grammar.root)) ∧
    ∀ element kind, kindOf? grammar.elements element = some kind → ∀ start,
      (search.terminalEnds kind start).Pairwise (· > ·) ∧
        ∀ stop, stop ∈ search.terminalEnds kind start ↔
          kind.Covers grammar.case tokens start stop := by
  intro search
  have grounded := Declaration.grounded_of_build built
  refine ⟨?_, ?_, ?_⟩
  · intro asked element position depth deep
    rw [unlimited, Search.candidatesAfter_none grounded]
    exact Search.map_stop_afresh grounded position deep
  · intro first depth deep
    rw [roots_eq_afresh built unlimited, first]
    exact Search.map_stop_rootStep grounded fun next => Search.map_stop_afresh grounded next deep
  · intro element kind present start
    exact Search.terminalEnds_exact grounded present options tokens start

/-- Shades of a colour, the plain one first. -/
def shadeDeclaration : Declaration where
  definitions := [⟨"GOAL", .choice [.literals ["blue"],
    .sequence [.literals ["dark"], .literals ["blue"]], .literals ["dark"]]⟩]

/-- The darker shade takes the slot of the plain one, which was found first, and the stops are those
of a search without ranks. -/
theorem Grammar.dark_blue_takes_the_slot : ∃ grammar, shadeDeclaration.build = .ok grammar ∧
    (grammar.roots {} (Token.ofWords ["dark", "blue"])).map Candidate.extent =
      [⟨0, 2, 2⟩, ⟨0, 1, 1⟩] ∧
    (grammar.roots {} (Token.ofWords ["dark", "blue"])).map Candidate.stop =
      let search := Search.of grammar {} (Token.ofWords ["dark", "blue"])
      search.rootStops (search.stops (grammar.root + 1) grammar.root) := by
  obtain ⟨grammar, built, extents⟩ : ∃ grammar, shadeDeclaration.build = .ok grammar ∧
      (grammar.roots {} (Token.ofWords ["dark", "blue"])).map Candidate.extent =
        [⟨0, 2, 2⟩, ⟨0, 1, 1⟩] := exists_built (by decide +kernel)
  exact ⟨grammar, built, extents,
    (ranks_leave_the_order built rfl (Token.ofWords ["dark", "blue"])).2.1 rfl _
      (Nat.lt_succ_self _)⟩

end Utterance

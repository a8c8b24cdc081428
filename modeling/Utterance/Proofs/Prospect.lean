import Utterance.Proofs.Agreement

/-!
# What the search finds behind tokens in front

An element retreats when what is found for it behind foreign tokens, moved back, agrees with what is
found without them (`Search.Retreats`). From among the tokens in front the search reaches less far,
so it can agree only on places where no match stops that starts out of reach. Every element does
agree on these (`Search.retreats`).

For an element inside another one, a place is useful when matches of what follows lead from there to
a place that is useful for the whole (`Onward`). A chain that is still among the tokens in front has
taken no token, so the matches that go on from it are matches of the whole, which start within
reach; from behind the tokens in front every match does (`Matches.inReach`).
-/
namespace Utterance

/-- What is assumed of tokens in front: they are foreign to a grammar with grounded elements, and
all tokens can be counted. -/
structure Preceded (grammar : Grammar) (fillers tokens : List Token) : Prop where
  /-- The elements are grounded. -/
  grounded : Grounded grammar.case grammar.elements
  /-- The tokens in front are foreign. -/
  foreign : ∀ filler ∈ fillers, Foreign grammar filler
  /-- All tokens can be counted. -/
  countable : fillers.length + tokens.length ≤ maxCount

/-- Whether leaves behind tokens in front start within reach of a position. -/
def Leaf.InReach (budget : SkipBudget) (ahead length position : Nat) (leaves : List Leaf) : Prop :=
  ∀ leaf ∈ leaves.head?, ahead + leaf.start < budget.searchLimit position (ahead + length)

/-- Leaves within reach are so without others after them. -/
theorem Leaf.InReach.of_append {budget : SkipBudget} {ahead length position : Nat}
    {left right : List Leaf} (reach : InReach budget ahead length position (left ++ right)) :
    InReach budget ahead length position left := by
  cases left with
  | nil => simp [InReach]
  | cons leaf rest => exact reach

/-- Whether matches of elements in order go on from a place to a useful one, along some route. -/
noncomputable def Onward (grammar : Grammar) (budget : SkipBudget) (tokens : List Token)
    (useful : Nat → Bool) (route : List Nat → Prop) (place : Nat) : Bool :=
  @decide (∃ elements parts stop, route elements ∧
    Chained (Matches grammar budget tokens) elements place parts stop ∧ useful stop = true)
    (Classical.propDecidable _)

section

variable {grammar : Grammar} {budget : SkipBudget} {fillers tokens : List Token}
  {elements : List Nat} {element position stop : Nat} {leaves : List Leaf}
  {parts : List (List Leaf)}

/-- A place from which a route leads to a useful one. -/
theorem onward_iff {useful : Nat → Bool} {route : List Nat → Prop} {place : Nat} :
    Onward grammar budget tokens useful route place = true ↔
      ∃ elements parts stop, route elements ∧
        Chained (Matches grammar budget tokens) elements place parts stop ∧
          useful stop = true :=
  @decide_eq_true_iff _ (Classical.propDecidable _)

/-- A match from which a route leads on to a useful place starts at a place from which one does. -/
theorem onward_of_matches {useful : Nat → Bool} {route further : List Nat → Prop}
    (step : ∀ elements, further elements → route (element :: elements))
    (matched : Matches grammar budget tokens element position leaves stop)
    (onward : Onward grammar budget tokens useful further stop = true) :
    Onward grammar budget tokens useful route position = true := by
  obtain ⟨elements, parts, last, follows, chained, reached⟩ := onward_iff.1 onward
  exact onward_iff.2 ⟨_, _, last, step elements follows, .cons matched chained, reached⟩

/-- From behind the tokens in front, and from right after them, leaves that are near start within
reach. -/
theorem Leaf.Near.inReach (preceded : Preceded grammar fillers tokens)
    (behind : fillers.length ≤ position)
    (near : Leaf.Near budget tokens.length (position - fillers.length) leaves) :
    Leaf.InReach budget fillers.length tokens.length position leaves := by
  have limit := budget.searchLimit_add preceded.countable (position - fillers.length)
  rw [Nat.add_sub_cancel' behind] at limit
  cases leaves with
  | nil => simp [InReach]
  | cons head rest =>
    intro leaf first
    have same : head = leaf := by simpa using first
    rw [limit, ← same]
    exact Nat.add_lt_add_left near.1 _

/-- From behind the tokens in front every match starts within reach. -/
theorem Matches.inReach (preceded : Preceded grammar fillers tokens)
    (behind : fillers.length ≤ position)
    (matched : Matches grammar budget tokens element (position - fillers.length) leaves stop) :
    Leaf.InReach budget fillers.length tokens.length position leaves :=
  (matched.near preceded.grounded).inReach preceded behind

/-- From behind the tokens in front matches one after another start within reach. -/
theorem Chained.inReach (preceded : Preceded grammar fillers tokens)
    (behind : fillers.length ≤ position)
    (chained : Chained (Matches grammar budget tokens) elements (position - fillers.length) parts
      stop) :
    Leaf.InReach budget fillers.length tokens.length position parts.flatten := by
  have near : Leaf.Near budget tokens.length (position - fillers.length) parts.flatten :=
    (chained.imp fun _ _ _ _ _ matched =>
      ⟨matched.ordered preceded.grounded, matched.near preceded.grounded⟩).near
  exact near.inReach preceded behind

end

section

variable {grammar : Grammar} {options : MatchOptions} {fillers tokens : List Token}
  {element position : Nat} {candidate : Candidate}

/-- What is found behind tokens in front has a clear extent. -/
theorem Preceded.clear (preceded : Preceded grammar fillers tokens)
    (member : candidate ∈ (Search.of grammar options (fillers ++ tokens)).afresh element position) :
    candidate.extent.Clear fillers.length position := by
  have solved := Search.afresh_solved preceded.grounded options (fillers ++ tokens) element position
  exact (solved.sound candidate member).clear preceded.grounded preceded.foreign

/-- What is found without tokens in front is a match. -/
theorem Search.exists_matches (grounded : Grounded grammar.case grammar.elements)
    (member : candidate ∈ (Search.of grammar options tokens).afresh element position) :
    ∃ leaves, Matches grammar options.skipBudget tokens element position leaves candidate.stop := by
  have solved := afresh_solved grounded options tokens element position
  exact ⟨_, ((solved.sound candidate member).reads grounded).matched⟩

/-- Without tokens in front the same is assumed. -/
theorem Preceded.none (preceded : Preceded grammar fillers tokens) : Preceded grammar [] tokens :=
  ⟨preceded.grounded, by simp, by
    have countable := preceded.countable
    rw [List.length_nil]
    omega⟩

/-- What is found behind tokens in front without taking a token is an empty match without them. -/
theorem Preceded.exists_empty (preceded : Preceded grammar fillers tokens)
    (member : candidate ∈ (Search.of grammar options (fillers ++ tokens)).afresh element position)
    (still : candidate.stop = position) :
    Matches grammar options.skipBudget tokens element (position - fillers.length) []
      (position - fillers.length) := by
  obtain ⟨leaves, matched⟩ := Search.exists_matches preceded.grounded member
  have none : leaves = [] := (matched.ordered preceded.grounded).stop_eq_iff.1 still
  have moved := matched.back preceded.grounded preceded.foreign preceded.countable
  rw [none, still] at moved
  exact moved

end

/-- Behind tokens in front literals stop as many tokens later as there are in front. -/
theorem LiteralSet.matchEnds_append (set : LiteralSet) (front folded : List String) (start : Nat) :
    set.matchEnds (front ++ folded) (front.length + start) =
      (set.matchEnds folded start).map (front.length + ·) := by
  have rest : (front ++ folded).drop (front.length + start) = folded.drop start :=
    List.drop_length_add_append start
  rw [matchEnds, matchEnds, rest, ← eraseDups_map fun _ _ => Nat.add_left_cancel, List.map_map]
  congr 2
  funext words
  exact Nat.add_assoc _ _ _

/-- What is gathered place by place, with nothing in front, is gathered without what is in front. -/
theorem MatchSpan.flatMap_places_front {α : Type} {ahead : Nat} {items : Nat → List α}
    (nothing : ∀ place < ahead, items place = []) (position limit : Nat) :
    (places position limit).flatMap items =
      (places (position - ahead) (limit - ahead)).flatMap fun place => items (ahead + place) := by
  have behind : ∀ start ≥ ahead, (places start limit).flatMap items =
      (places (start - ahead) (limit - ahead)).flatMap fun place => items (ahead + place) := by
    intro start after
    have width : limit - start = limit - ahead - (start - ahead) := by omega
    rw [places, places, width, ← Nat.add_sub_cancel' after, ← List.map_add_range', List.flatMap_map,
      Nat.add_sub_cancel_left]
  have front : ∀ stop ≤ ahead, (places position stop).flatMap items = [] := by
    intro stop before
    rw [List.flatMap_eq_nil_iff]
    intro place member
    rw [places, List.mem_range'_1] at member
    exact nothing place (by omega)
  rcases Nat.le_total ahead position with after | before
  · exact behind position after
  · rcases Nat.le_total limit ahead with short | long
    · rw [front limit short, Nat.sub_eq_zero_of_le before, Nat.sub_eq_zero_of_le short]
      rfl
    · rw [← places_append before long, List.flatMap_append, front ahead (Nat.le_refl _),
        List.nil_append, behind ahead (Nat.le_refl _), Nat.sub_self, Nat.sub_eq_zero_of_le before]

/-- Places from which nothing is gathered may be left out at the end. -/
theorem MatchSpan.flatMap_places_of_nil {α : Type} {items : Nat → List α} {start few many : Nat}
    (le : few ≤ many)
    (nothing : ∀ place, start ≤ place → few ≤ place → place < many → items place = []) :
    (places start many).flatMap items = (places start few).flatMap items := by
  have rest : ∀ first ≥ start, first ≥ few → (places first many).flatMap items = [] := by
    intro first after further
    rw [List.flatMap_eq_nil_iff]
    intro place member
    rw [places, List.mem_range'_1] at member
    exact nothing place (by omega) (by omega) (by omega)
  rcases Nat.le_total start few with before | after
  · rw [← places_append before le, List.flatMap_append, rest few before (Nat.le_refl _),
      List.append_nil]
  · rw [rest start (Nat.le_refl _) after, places, Nat.sub_eq_zero_of_le after]
    rfl

section

variable (grammar : Grammar) (options : MatchOptions) (fillers tokens : List Token)

/-- Whether what is found for an element behind tokens in front is what is found without them, moved
back, as far as it stops at places that are useful: places where no match stops that starts beyond
the reach of the search. -/
def Search.Retreats (element : Nat) : Prop :=
  ∀ position useful, (∀ leaves stop,
      Matches grammar options.skipBudget tokens element (position - fillers.length) leaves stop →
      useful stop = true →
      Leaf.InReach options.skipBudget fillers.length tokens.length position leaves) →
    AgreeOn Candidate.extent useful
      (((Search.of grammar options (fillers ++ tokens)).afresh element position).map
        (Candidate.back fillers.length))
      ((Search.of grammar options tokens).afresh element (position - fillers.length))

end

section

variable {grammar : Grammar} {options : MatchOptions} {fillers tokens : List Token}
  {element position start : Nat} {kind : Kind}

/-- No terminal starts with a token in front. -/
theorem Preceded.terminalEnds_front (preceded : Preceded grammar fillers tokens)
    (present : kindOf? grammar.elements element = some kind) (early : start < fillers.length) :
    (Search.of grammar options (fillers ++ tokens)).terminalEnds kind start = [] := by
  rw [List.eq_nil_iff_forall_not_mem]
  intro stop listed
  have covers := (Kind.mem_terminalEnds (preceded.grounded.admissible _ _ present) options
    (fillers ++ tokens) start stop).1 listed
  have behind := Foreign.length_le preceded.grounded preceded.foreign present covers
  omega

/-- A terminal behind tokens in front stops as many tokens later as there are in front. -/
theorem Search.terminalEnds_append (kind : Kind) (start : Nat) :
    (Search.of grammar options (fillers ++ tokens)).terminalEnds kind (fillers.length + start) =
      ((Search.of grammar options tokens).terminalEnds kind start).map (fillers.length + ·) := by
  cases kind with
  | literals set =>
    have shown : (Search.of grammar options (fillers ++ tokens)).folded =
        (fillers.map fun token => grammar.case.fold token.text) ++
          (Search.of grammar options tokens).folded := List.map_append
    have ends := set.matchEnds_append (fillers.map fun token => grammar.case.fold token.text)
      (Search.of grammar options tokens).folded start
    rw [List.length_map] at ends
    rw [terminalEnds, terminalEnds, shown, ends]
  | pattern matcher =>
    have there : (Search.of grammar options (fillers ++ tokens)).texts[fillers.length + start]? =
        (Search.of grammar options tokens).texts[start]? := by
      rw [Search.of, Search.of, ← List.length_map (fun token : Token => token.text),
        List.map_append, List.getElem?_append_right (Nat.le_add_right _ _), Nat.add_sub_cancel_left]
    rw [terminalEnds, terminalEnds, there, apply_ite (List.map (fillers.length + ·))]
    rfl
  | sequence children => rfl
  | choice children => rfl
  | optional inner => rfl
  | repetition inner min max => rfl

/-- What a terminal matches from a token behind those in front moves back with the token. -/
theorem Candidate.map_terminal_back (element : Nat) (kind : Kind) (start : Nat) :
    (((Search.of grammar options (fillers ++ tokens)).terminalEnds kind
        (fillers.length + start)).map (Candidate.terminal element (fillers.length + start))).map
          (Candidate.back fillers.length) =
      ((Search.of grammar options tokens).terminalEnds kind start).map
        (Candidate.terminal element start) := by
  rw [Search.terminalEnds_append, List.map_map, List.map_map]
  refine List.map_congr_left fun stop _ => ?_
  simp only [Function.comp, terminal, back, Extent.back, backAll, Nat.add_sub_cancel_left,
    Nat.add_sub_add_left]

/-- A terminal is searched for place by place, up to the end of the search. -/
theorem Search.terminals_eq (element : Nat) (kind : Kind) (position : Nat) :
    (Search.of grammar options tokens).terminals element kind position =
      offerAll Candidate.extent [] ((MatchSpan.places position
        (options.skipBudget.searchLimit position tokens.length)).flatMap fun start =>
          ((Search.of grammar options tokens).terminalEnds kind start).map
            (Candidate.terminal element start)) := by
  rw [terminals, starts, of_length]
  rfl

/-- Behind tokens in front a terminal is found where it is without them, up to the end of the
search. -/
theorem Preceded.map_terminals_back (preceded : Preceded grammar fillers tokens)
    (present : kindOf? grammar.elements element = some kind) {limit : Nat}
    (ends : options.skipBudget.searchLimit position (fillers ++ tokens).length = limit) :
    ((Search.of grammar options (fillers ++ tokens)).terminals element kind position).map
        (Candidate.back fillers.length) =
      offerAll Candidate.extent [] ((MatchSpan.places (position - fillers.length)
        (limit - fillers.length)).flatMap fun start =>
          ((Search.of grammar options tokens).terminalEnds kind start).map
            (Candidate.terminal element start)) := by
  have admissible := preceded.grounded.admissible _ _ present
  let matched := fun start =>
    ((Search.of grammar options (fillers ++ tokens)).terminalEnds kind start).map
      (Candidate.terminal element start)
  have clear : ∀ item ∈ (MatchSpan.places position limit).flatMap matched,
      item.extent.Clear fillers.length position := by
    intro item member
    obtain ⟨start, listed, made⟩ := List.mem_flatMap.1 member
    obtain ⟨stop, inside, rfl⟩ := List.mem_map.1 made
    have after := (List.mem_range'_1.1 listed).1
    have covers := (Kind.mem_terminalEnds admissible options _ start stop).1 inside
    exact Or.inr ⟨Foreign.length_le preceded.grounded preceded.foreign present covers, after,
      (covers.bounds admissible).1⟩
  have nothing : ∀ start < fillers.length, matched start = [] := by
    intro start early
    exact List.map_eq_nil_iff.2 (preceded.terminalEnds_front present early)
  rw [Search.terminals_eq, ends, map_offerAll_back (Candidate.back_extent _) position clear,
    MatchSpan.flatMap_places_front nothing, List.map_flatMap]
  exact congrArg _ (List.flatMap_congr fun start _ =>
    Candidate.map_terminal_back element kind start)

/-- A terminal retreats. -/
theorem Search.Retreats.terminal (preceded : Preceded grammar fillers tokens)
    (present : kindOf? grammar.elements element = some kind) (direct : kind.isTerminal = true) :
    Retreats grammar options fillers tokens element := by
  intro position useful reach
  have admissible := preceded.grounded.admissible _ _ present
  obtain ⟨limit, ends⟩ : ∃ limit,
      options.skipBudget.searchLimit position (fillers ++ tokens).length = limit := ⟨_, rfl⟩
  have most : limit - fillers.length ≤
      options.skipBudget.searchLimit (position - fillers.length) tokens.length := by
    have within := options.skipBudget.searchLimit_le_add preceded.countable position
    rw [← List.length_append, ends] at within
    omega
  rw [afresh_terminal preceded.grounded present direct,
    afresh_terminal preceded.grounded present direct, preceded.map_terminals_back present ends,
    terminals_eq]
  refine AgreeOn.offerAll ?_
  rw [AgreeOn, List.filter_flatMap, List.filter_flatMap]
  -- Without the tokens in front the search may end later, but not at a useful place.
  refine (MatchSpan.flatMap_places_of_nil most fun start after further within => ?_).symm
  rw [List.filter_eq_nil_iff]
  intro item made last
  obtain ⟨stop, inside, rfl⟩ := List.mem_map.1 made
  have covers := (Kind.mem_terminalEnds admissible options _ start stop).1 inside
  have reached := reach _ stop (.terminal present after within covers) last ⟨start, stop⟩ rfl
  rw [← List.length_append, ends] at reached
  change fillers.length + start < limit at reached
  omega

end

namespace Search

variable {grammar : Grammar} {options : MatchOptions} {fillers tokens : List Token}
  {element inner position least min count : Nat} {children : List Nat} {most : Option Nat}
  {useful : Nat → Bool} {chain : Chain}

/-- Chains that grow through elements from clear ones are clear. -/
theorem thread_clear (preceded : Preceded grammar fillers tokens) (children : List Nat)
    {chains : List Chain} (clear : ∀ chain ∈ chains, chain.Clear fillers.length position) :
    ∀ chain ∈ thread (Search.of grammar options (fillers ++ tokens)).afresh children chains,
      chain.Clear fillers.length position := by
  induction children generalizing chains with
  | nil => exact clear
  | cons child rest hypothesis =>
    exact hypothesis (grow_clear clear fun _ _ _ member => preceded.clear member)

/-- Chains that agree where a route through elements leads on to useful places agree at these places
after they have grown through the elements. -/
theorem thread_agrees (preceded : Preceded grammar fillers tokens)
    (each : ∀ child ∈ children, Retreats grammar options fillers tokens child)
    {farChains nearChains : List Chain}
    (clear : ∀ chain ∈ farChains, chain.Clear fillers.length position)
    (reach : ∀ chain ∈ farChains, ∀ parts stop,
      Chained (Matches grammar options.skipBudget tokens) children (chain.stop - fillers.length)
        parts stop → useful stop = true →
      Leaf.InReach options.skipBudget fillers.length tokens.length chain.stop parts.flatten)
    (agree : AgreeOn Chain.extent
      (Onward grammar options.skipBudget tokens useful (· = children))
      (farChains.map (Chain.back fillers.length)) nearChains) :
    AgreeOn Chain.extent useful
      ((thread (Search.of grammar options (fillers ++ tokens)).afresh children farChains).map
        (Chain.back fillers.length))
      (thread (Search.of grammar options tokens).afresh children nearChains) := by
  induction children generalizing farChains nearChains with
  | nil =>
    refine agree.mono fun stop last => onward_iff.2 ?_
    exact ⟨[], [], stop, rfl, .nil stop, last⟩
  | cons child rest hypothesis =>
    have answers : ∀ chain ∈ farChains,
        ∀ candidate ∈ (Search.of grammar options (fillers ++ tokens)).afresh child chain.stop,
          candidate.extent.Clear fillers.length chain.stop :=
      fun chain _ candidate member => preceded.clear member
    have covered : ∀ place, ∀ candidate ∈ (Search.of grammar options tokens).afresh child place,
        Onward grammar options.skipBudget tokens useful (· = rest) candidate.stop = true →
          Onward grammar options.skipBudget tokens useful (· = child :: rest) place = true := by
      intro place candidate member onward
      obtain ⟨leaves, matched⟩ := exists_matches preceded.grounded member
      exact onward_of_matches (fun _ same => congrArg _ same) matched onward
    have asked : ∀ chain ∈ farChains, AgreeOn Candidate.extent
        (Onward grammar options.skipBudget tokens useful (· = rest))
        (((Search.of grammar options (fillers ++ tokens)).afresh child chain.stop).map
          (Candidate.back fillers.length))
        ((Search.of grammar options tokens).afresh child (chain.stop - fillers.length)) := by
      intro chain listed
      refine each child List.mem_cons_self chain.stop _ fun leaves stop matched onward => ?_
      obtain ⟨elements, parts, final, rfl, chained, last⟩ := onward_iff.1 onward
      exact (reach chain listed _ final (.cons matched chained) last).of_append
    refine hypothesis (fun other member => each other (List.mem_cons_of_mem _ member))
      (grow_clear clear answers) ?_
      (grow_agrees clear answers (fun _ _ _ _ => rfl) covered asked agree)
    intro grown listed parts stop chained last
    obtain ⟨chain, earlier, candidate, answered, -, rfl⟩ := exists_of_mem_grow listed
    change Chained _ rest (candidate.stop - fillers.length) parts stop at chained
    show Leaf.InReach _ _ _ candidate.stop parts.flatten
    rcases answers chain earlier candidate answered with ⟨-, still⟩ | ⟨behind, -, filled⟩
    · -- An empty candidate leaves the chain where it was.
      change candidate.stop = chain.stop at still
      rw [still] at chained ⊢
      have empty := preceded.exists_empty answered still
      exact reach chain earlier ([] :: parts) stop (.cons empty chained) last
    · change candidate.extent.start < candidate.stop at filled
      exact chained.inReach preceded (by omega)

/-- A sequence retreats if its children do. -/
theorem Retreats.sequence (preceded : Preceded grammar fillers tokens)
    (present : kindOf? grammar.elements element = some (.sequence children))
    (each : ∀ child ∈ children, Retreats grammar options fillers tokens child) :
    Retreats grammar options fillers tokens element := by
  intro position useful reach
  have start : ∀ ahead place, ∀ chain ∈ [Chain.empty place], chain.Clear ahead place := by
    intro ahead place chain member
    rw [List.mem_singleton.1 member]
    exact .empty ahead place
  have farClear : ∀ chain ∈ thread (Search.of grammar options (fillers ++ tokens)).afresh children
      [.empty position], chain.Clear fillers.length position :=
    thread_clear preceded children (start _ _)
  have nearClear : ∀ chain ∈ thread (Search.of grammar options tokens).afresh children
      [.empty (position - fillers.length)], chain.Clear 0 (position - fillers.length) :=
    thread_clear preceded.none children (start _ _)
  have agree : AgreeOn Chain.extent useful
      ((thread (Search.of grammar options (fillers ++ tokens)).afresh children
        [.empty position]).map (Chain.back fillers.length))
      (thread (Search.of grammar options tokens).afresh children
        [.empty (position - fillers.length)]) := by
    refine thread_agrees preceded each (start _ _) ?_ rfl
    intro chain member parts stop chained last
    rw [List.mem_singleton.1 member] at chained ⊢
    exact reach _ stop (.sequence present chained) last
  rw [afresh_sequence preceded.grounded present, afresh_sequence preceded.grounded present]
  exact agree.toCandidates farClear nearClear element

/-- What is found for alternatives behind tokens in front has clear extents as matches of their
choice. -/
theorem alternatives_clear (preceded : Preceded grammar fillers tokens) (options : MatchOptions)
    (element position : Nat) (children : List Nat) :
    ∀ item ∈ children.flatMap (fun child =>
      ((Search.of grammar options (fillers ++ tokens)).afresh child position).map fun candidate =>
        Candidate.node element position [candidate]),
      item.extent.Clear fillers.length position := by
  intro item listed
  obtain ⟨child, -, made⟩ := List.mem_flatMap.1 listed
  obtain ⟨candidate, member, rfl⟩ := List.mem_map.1 made
  have solved := afresh_solved preceded.grounded options (fillers ++ tokens) child position
  rw [(solved.sound candidate member).extent_node preceded.grounded]
  exact preceded.clear member

/-- A choice retreats if its alternatives do. -/
theorem Retreats.choice (preceded : Preceded grammar fillers tokens)
    (present : kindOf? grammar.elements element = some (.choice children))
    (each : ∀ child ∈ children, Retreats grammar options fillers tokens child) :
    Retreats grammar options fillers tokens element := by
  intro position useful reach
  have grounded := preceded.grounded
  have clear := alternatives_clear preceded options element position children
  let near := (Search.of grammar options tokens).afresh
  let around := fun candidate => Candidate.node element (position - fillers.length) [candidate]
  have moved : (children.flatMap fun child =>
        ((Search.of grammar options (fillers ++ tokens)).afresh child position).map fun candidate =>
          Candidate.node element position [candidate]).map (Candidate.back fillers.length) =
      children.flatMap fun child =>
        (((Search.of grammar options (fillers ++ tokens)).afresh child position).map
          (Candidate.back fillers.length)).map around := by
    rw [List.map_flatMap]
    exact List.flatMap_congr fun child _ =>
      Candidate.map_node_back (fun candidate member => preceded.clear member) element
  have agree : AgreeOn Candidate.extent useful
      (children.flatMap fun child =>
        (((Search.of grammar options (fillers ++ tokens)).afresh child position).map
          (Candidate.back fillers.length)).map around)
      (children.flatMap fun child => (near child (position - fillers.length)).map around) := by
    refine AgreeOn.flatMap fun child member => ?_
    have inside := each child member position useful fun leaves stop matched last =>
      reach leaves stop (.choice present member matched) last
    exact inside.map (fun _ _ => rfl) fun _ _ => rfl
  rw [afresh_choice grounded present, afresh_choice grounded present,
    ChoiceOrder.map_arrange_back (forall_mem_offerAll clear),
    map_offerAll_back (Candidate.back_extent _) position clear, moved]
  exact agree.offerAll.arrange (distinct_offerAll _ _) (distinct_offerAll _ _) options.choiceOrder

/-- An optional element retreats if its child does. -/
theorem Retreats.optional (preceded : Preceded grammar fillers tokens)
    (present : kindOf? grammar.elements element = some (.optional inner))
    (inside : Retreats grammar options fillers tokens inner) :
    Retreats grammar options fillers tokens element := by
  intro position useful reach
  have agree := inside position useful fun leaves stop matched last =>
    reach leaves stop (.optional present matched) last
  rw [afresh_optional preceded.grounded present, afresh_optional preceded.grounded present,
    map_withEmpty_back (fun candidate member => preceded.clear member)]
  exact agree.withEmpty element _

/-- Chains of occurrences are clear. -/
theorem rise_clear (preceded : Preceded grammar fillers tokens) (count : Nat) :
    ∀ chain ∈ rise (Search.of grammar options (fillers ++ tokens)).afresh inner least position
      count, chain.Clear fillers.length position := by
  induction count with
  | zero =>
    intro chain member
    rw [List.mem_singleton.1 member]
    exact .empty _ position
  | succ count hypothesis => exact grow_clear hypothesis fun _ _ _ member => preceded.clear member

/-- An occurrence is used exactly if it moves on. -/
theorem advances_iff (grounded : Grounded grammar.case grammar.elements)
    (minimum : least = if elementNullable grammar.elements inner then 0 else min) (count : Nat)
    (chain : Chain) {candidate : Candidate}
    (member : candidate ∈ (Search.of grammar options tokens).afresh inner chain.stop) :
    advances least (count + 1) chain candidate = true ↔ candidate.stop ≠ chain.stop := by
  have solved := afresh_solved grounded options tokens inner chain.stop
  have sound := solved.sound candidate member
  constructor
  · intro used still
    have filled := isEmpty_eq_false_of_advances grounded minimum sound used
    rw [(sound.isEmpty_iff_stop_eq grounded).2 still] at filled
    exact absurd filled (by decide)
  · intro moves
    simp [advances, moves]

/-- Each occurrence takes a token, and none is taken that is not there. -/
theorem rise_fits (grounded : Grounded grammar.case grammar.elements)
    (minimum : least = if elementNullable grammar.elements inner then 0 else min)
    (member : chain ∈ rise (Search.of grammar options tokens).afresh inner least position count) :
    position + count ≤ chain.stop ∧ chain.stop ≤ max position tokens.length := by
  induction count generalizing chain with
  | zero =>
    rw [List.mem_singleton.1 member]
    exact ⟨Nat.le_refl _, Nat.le_max_left _ _⟩
  | succ count hypothesis =>
    obtain ⟨before, earlier, candidate, answered, used, rfl⟩ := exists_of_mem_grow member
    have solved := afresh_solved grounded options tokens inner before.stop
    have moves := (advances_iff grounded minimum count before answered).1 used
    have matched := ((solved.sound candidate answered).reads grounded).matched
    have forward := (matched.ordered grounded).le_stop
    have within := matched.stop_le grounded
    have bounds := hypothesis earlier
    show position + (count + 1) ≤ candidate.stop ∧ candidate.stop ≤ max position tokens.length
    omega

/-- No chain has more occurrences than tokens are left. -/
theorem rise_eq_nil_of_lt (grounded : Grounded grammar.case grammar.elements)
    (minimum : least = if elementNullable grammar.elements inner then 0 else min) {count : Nat}
    (many : tokens.length - position < count) :
    rise (Search.of grammar options tokens).afresh inner least position count = [] := by
  rw [List.eq_nil_iff_forall_not_mem]
  intro chain member
  have fits := rise_fits grounded minimum member
  omega

/-- Whether a number of occurrences may still become a useful match of a repetition, given where
they stop. -/
def Continues (least count : Nat) (most : Option Nat) (inner : Nat) (elements : List Nat) : Prop :=
  ∃ more, elements = List.replicate more inner ∧ least ≤ count + more ∧
    ∀ bound, most = some bound → count + more ≤ bound

/-- The chains of some number of occurrences agree where more occurrences lead on to useful
places. -/
theorem rise_agrees (preceded : Preceded grammar fillers tokens)
    (inside : Retreats grammar options fillers tokens inner)
    (minimum : least = if elementNullable grammar.elements inner then 0 else min)
    (reach : ∀ more parts stop,
      Chained (Matches grammar options.skipBudget tokens) (List.replicate more inner)
        (position - fillers.length) parts stop → least ≤ more →
      (∀ bound, most = some bound → more ≤ bound) → useful stop = true →
      Leaf.InReach options.skipBudget fillers.length tokens.length position parts.flatten)
    (count : Nat) :
    AgreeOn Chain.extent
      (Onward grammar options.skipBudget tokens useful (Continues least count most inner))
      ((rise (Search.of grammar options (fillers ++ tokens)).afresh inner least position
        count).map (Chain.back fillers.length))
      (rise (Search.of grammar options tokens).afresh inner least (position - fillers.length)
        count) := by
  induction count with
  | zero => exact rfl
  | succ count hypothesis =>
    have clear : ∀ chain ∈ rise (Search.of grammar options (fillers ++ tokens)).afresh inner least
        position count, chain.Clear fillers.length position := rise_clear preceded count
    refine grow_agrees clear (fun _ _ _ member => preceded.clear member) ?_ ?_ ?_ hypothesis
    · intro chain _ candidate member
      have cases := preceded.clear member
      have still : candidate.stop - fillers.length = chain.stop - fillers.length ↔
          candidate.stop = chain.stop := by
        have stop : candidate.stop = candidate.extent.stop := rfl
        unfold Extent.Clear at cases
        omega
      rw [advances, advances, Candidate.back_stop]
      congr 2
      rw [Bool.eq_iff_iff, beq_iff_eq, beq_iff_eq]
      exact still
    · intro place candidate member onward
      obtain ⟨leaves, matched⟩ := exists_matches preceded.grounded member
      refine onward_of_matches ?_ matched onward
      rintro elements ⟨more, rfl, enough, few⟩
      refine ⟨more + 1, rfl, by omega, fun bound limit => ?_⟩
      have within := few bound limit
      omega
    · intro chain listed
      refine inside chain.stop _ fun leaves stop matched onward => ?_
      by_cases behind : fillers.length ≤ chain.stop
      · exact matched.inReach preceded behind
      · -- Among the tokens in front there are no occurrences yet.
        obtain ⟨elements, parts, final, ⟨more, rfl, enough, few⟩, chained, last⟩ :=
          onward_iff.1 onward
        have fits := (rise_fits preceded.grounded minimum listed).1
        have still := (clear chain listed).stop_cases
        obtain rfl : count = 0 := by omega
        have there : chain.stop = position := by omega
        rw [there] at matched ⊢
        have whole : Leaf.InReach options.skipBudget fillers.length tokens.length position
            (leaves :: parts).flatten := by
          refine reach (more + 1) _ final (.cons matched chained) (by omega) ?_ last
          intro bound limit
          have within := few bound limit
          omega
        exact whole.of_append

/-- The chains that a repetition gathers are clear. -/
theorem reach_clear (preceded : Preceded grammar fillers tokens) (last : Nat) :
    ∀ chain ∈ reach (Search.of grammar options (fillers ++ tokens)).afresh inner least position
      last, chain.Clear fillers.length position := by
  intro chain member
  obtain ⟨count, -, risen⟩ := List.mem_flatMap.1 member
  exact rise_clear preceded count chain risen

/-- A repetition retreats if its element does. -/
theorem Retreats.repetition (preceded : Preceded grammar fillers tokens)
    (present : kindOf? grammar.elements element = some (.repetition inner min most))
    (inside : Retreats grammar options fillers tokens inner) :
    Retreats grammar options fillers tokens element := by
  intro position useful reached
  have grounded := preceded.grounded
  obtain ⟨least, minimum⟩ : ∃ least, least = if elementNullable grammar.elements inner then 0
    else min := ⟨_, rfl⟩
  obtain ⟨last, few, enough⟩ : ∃ last, (∀ bound, most = some bound → last ≤ bound) ∧
      (most = some last ∨ fillers.length + tokens.length ≤ last) := by
    cases most with
    | none => exact ⟨_, by simp, Or.inr (Nat.le_refl _)⟩
    | some bound => exact ⟨bound, by simp, Or.inl rfl⟩
  have reachable : ∀ more parts stop, Chained (Matches grammar options.skipBudget tokens)
      (List.replicate more inner) (position - fillers.length) parts stop → least ≤ more →
      (∀ bound, most = some bound → more ≤ bound) → useful stop = true →
      Leaf.InReach options.skipBudget fillers.length tokens.length position parts.flatten := by
    intro more parts stop chained enough few last
    refine reached _ stop (matches_repetition grounded present ?_ few chained) last
    intro unmarked
    rw [minimum, unmarked] at enough
    exact enough
  let far := reach (Search.of grammar options (fillers ++ tokens)).afresh inner least position last
  let near := reach (Search.of grammar options tokens).afresh inner least
    (position - fillers.length) last
  have farClear : ∀ chain ∈ far, chain.Clear fillers.length position := reach_clear preceded last
  have nearClear : ∀ chain ∈ near, chain.Clear 0 (position - fillers.length) :=
    reach_clear preceded.none last
  have agree : AgreeOn Chain.extent useful (far.map (Chain.back fillers.length)) near := by
    refine reach_agrees fun count met allowed => ?_
    refine (rise_agrees preceded inside minimum reachable count).mono fun stop last => ?_
    refine onward_iff.2 ⟨[], [], stop, ⟨0, rfl, met, ?_⟩, .nil stop, last⟩
    intro bound limit
    exact Nat.le_trans allowed (few bound limit)
  have held := agree.offerAll
  rw [← map_offerAll_back (Chain.back_extent _) position fun chain listed =>
    (farClear chain listed).extent] at held
  have farLong : most = some last ∨ (fillers ++ tokens).length - position ≤ last := by
    refine enough.imp_right fun all => ?_
    rw [List.length_append]
    omega
  have nearLong : most = some last ∨ tokens.length - (position - fillers.length) ≤ last := by
    refine enough.imp_right fun all => ?_
    omega
  rw [afresh_repetition grounded present minimum few farLong fun _ many =>
      rise_eq_nil_of_lt grounded minimum many,
    afresh_repetition grounded present minimum few nearLong fun _ many =>
      rise_eq_nil_of_lt grounded minimum many]
  exact held.toCandidates (forall_mem_offerAll farClear) (forall_mem_offerAll nearClear) element

/-- What is found for any element behind tokens in front is what is found without them, as far as it
stops at places where no match stops that starts beyond the reach of the search. -/
theorem retreats (preceded : Preceded grammar fillers tokens) (options : MatchOptions)
    (element : Nat) : Retreats grammar options fillers tokens element := by
  have grounded := preceded.grounded
  induction element using Nat.strongRecOn with
  | ind element hypothesis =>
  cases present : kindOf? grammar.elements element with
  | none =>
    intro position useful reach
    rw [afresh_absent grounded present, afresh_absent grounded present]
    exact rfl
  | some kind =>
    have below : ∀ child ∈ kind.children, Retreats grammar options fillers tokens child :=
      fun child member => hypothesis child (grounded.child_lt present member)
    cases kind with
    | literals set => exact .terminal preceded present rfl
    | pattern matcher => exact .terminal preceded present rfl
    | sequence children => exact .sequence preceded present below
    | choice children => exact .choice preceded present below
    | optional inner => exact .optional preceded present (below inner List.mem_cons_self)
    | repetition inner min max =>
      exact .repetition preceded present (below inner List.mem_cons_self)

end Search

end Utterance

import Utterance.Proofs.Grounded
import Utterance.Proofs.Leaf
import Utterance.Search.Step

/-!
# What an element matches

`Matches` is read off the kinds of elements and says nothing about a search: which leaves an element
may have from a position, and where the match stops. A terminal covers tokens within the reach of
the skip budget; a sequence chains its children, each from where the one before stops; a choice is a
match of one alternative; an optional element may be left out; and a repetition chains occurrences,
of which any may be empty.

For grounded elements the leaves of a match are in order and end where it stops (`Matches.ordered`),
an element has an empty match exactly when it is marked so (`Matches.nullable`,
`matches_nil_of_nullable`), and without a limit on noise a match that is not empty is also one from
every earlier position (`Matches.earlier`).
-/
namespace Utterance

/-- Items one after another, one for each element, each from where the one before stops. -/
inductive Chained {α : Type} (holds : Nat → Nat → α → Nat → Prop) :
    List Nat → Nat → List α → Nat → Prop where
  /-- Nothing stops where it is. -/
  | nil (position : Nat) : Chained holds [] position [] position
  /-- An item, and others from where it stops. -/
  | cons {element position middle stop : Nat} {item : α} {elements : List Nat} {items : List α}
      (first : holds element position item middle)
      (rest : Chained holds elements middle items stop) :
      Chained holds (element :: elements) position (item :: items) stop

/-- Whether tokens from a start up to a stop are what a terminal asks for: the folded words of a
member of its literal set, or one token that its pattern accepts. -/
def Kind.Covers (case : CasePolicy) (tokens : List Token) (start stop : Nat) : Kind → Prop
  | .literals set => ∃ member ∈ set.members,
      stop = start + (LiteralSet.memberWords member).length ∧
      ((tokens.drop start).take (stop - start)).map (fun token => case.fold token.text) =
        (LiteralSet.memberWords member).map case.fold
  | .pattern matcher => stop = start + 1 ∧
      ∃ token, tokens[start]? = some token ∧ matcher.accepts token.text = true
  | _ => False

/-- The matches of an element from a position: their leaves and where they stop. -/
inductive Matches (grammar : Grammar) (budget : SkipBudget) (tokens : List Token) :
    (element position : Nat) → (leaves : List Leaf) → (stop : Nat) → Prop where
  /-- A terminal covers tokens that start within reach. -/
  | terminal {element position start stop : Nat} {kind : Kind}
      (present : kindOf? grammar.elements element = some kind) (after : position ≤ start)
      (near : start < budget.searchLimit position tokens.length)
      (covers : kind.Covers grammar.case tokens start stop) :
      Matches grammar budget tokens element position [⟨start, stop⟩] stop
  /-- A sequence matches its children in order. -/
  | sequence {element position stop : Nat} {children : List Nat} {parts : List (List Leaf)}
      (present : kindOf? grammar.elements element = some (.sequence children))
      (chained : Chained (Matches grammar budget tokens) children position parts stop) :
      Matches grammar budget tokens element position parts.flatten stop
  /-- A choice matches what one of its alternatives matches. -/
  | choice {element position child stop : Nat} {children : List Nat} {leaves : List Leaf}
      (present : kindOf? grammar.elements element = some (.choice children))
      (member : child ∈ children)
      (inside : Matches grammar budget tokens child position leaves stop) :
      Matches grammar budget tokens element position leaves stop
  /-- An optional element matches what its child matches. -/
  | optional {element position inner stop : Nat} {leaves : List Leaf}
      (present : kindOf? grammar.elements element = some (.optional inner))
      (inside : Matches grammar budget tokens inner position leaves stop) :
      Matches grammar budget tokens element position leaves stop
  /-- An optional element may be left out. -/
  | omitted {element position inner : Nat}
      (present : kindOf? grammar.elements element = some (.optional inner)) :
      Matches grammar budget tokens element position [] position
  /-- A repetition matches occurrences in order, as many as its bounds allow. -/
  | repetition {element position inner min count stop : Nat} {max : Option Nat}
      {parts : List (List Leaf)}
      (present : kindOf? grammar.elements element = some (.repetition inner min max))
      (enough : min ≤ count) (few : ∀ most, max = some most → count ≤ most)
      (chained : Chained (Matches grammar budget tokens) (List.replicate count inner) position parts
        stop) :
      Matches grammar budget tokens element position parts.flatten stop

namespace Chained

variable {α β : Type} {holds : Nat → Nat → α → Nat → Prop} {elements more : List Nat}
  {position middle stop : Nat} {items others : List α}

/-- What holds of each item in turn may be replaced by what follows from it. -/
theorem map {implied : Nat → Nat → β → Nat → Prop} (change : α → β)
    (chained : Chained holds elements position items stop)
    (each : ∀ element ∈ elements, ∀ position item stop,
      holds element position item stop → implied element position (change item) stop) :
    Chained implied elements position (items.map change) stop := by
  induction chained with
  | nil position => exact .nil position
  | cons first rest hypothesis =>
    exact .cons (each _ List.mem_cons_self _ _ _ first)
      (hypothesis fun element member => each element (List.mem_cons_of_mem _ member))

/-- What holds of each item in turn may be weakened. -/
theorem imp {implied : Nat → Nat → α → Nat → Prop}
    (chained : Chained holds elements position items stop)
    (each : ∀ element ∈ elements, ∀ position item stop,
      holds element position item stop → implied element position item stop) :
    Chained implied elements position items stop := by
  have mapped := chained.map id each
  rwa [List.map_id] at mapped

/-- Items after items. -/
theorem append (first : Chained holds elements position items middle)
    (second : Chained holds more middle others stop) :
    Chained holds (elements ++ more) position (items ++ others) stop := by
  induction first with
  | nil position => exact second
  | cons head rest hypothesis => exact .cons head (hypothesis second)

/-- One more item at the end. -/
theorem concat {element : Nat} {item : α} (first : Chained holds elements position items middle)
    (last : holds element middle item stop) :
    Chained holds (elements ++ [element]) position (items ++ [item]) stop :=
  first.append (.cons last (.nil stop))

/-- A chain for one more element ends with an item of it. -/
theorem of_concat {element : Nat}
    (chained : Chained holds (elements ++ [element]) position items stop) :
    ∃ before last middle, items = before ++ [last] ∧
      Chained holds elements position before middle ∧ holds element middle last stop := by
  induction elements generalizing position items with
  | nil =>
    cases chained with
    | cons first rest =>
      cases rest
      exact ⟨[], _, _, rfl, .nil _, first⟩
  | cons head rest hypothesis =>
    cases chained with
    | cons first others =>
      obtain ⟨before, last, middle, split, earlier, final⟩ := hypothesis others
      exact ⟨_ :: before, last, middle, by rw [split, List.cons_append], .cons first earlier, final⟩

/-- There is one item for each element. -/
theorem length_eq (chained : Chained holds elements position items stop) :
    items.length = elements.length := by
  induction chained with
  | nil position => rfl
  | cons first rest hypothesis => simp [hypothesis]

/-- A property of each item of a chain, whichever element and position it has. -/
theorem forall_mem {property : α → Prop} (chained : Chained holds elements position items stop)
    (each : ∀ element position item stop, holds element position item stop → property item) :
    ∀ item ∈ items, property item := by
  induction chained with
  | nil position => simp
  | cons first rest hypothesis =>
    intro item member
    rcases List.mem_cons.1 member with rfl | member
    · exact each _ _ _ _ first
    · exact hypothesis item member

/-- The first items of a chain are a chain. -/
theorem take (chained : Chained holds elements position items stop) (count : Nat) :
    ∃ middle, Chained holds (elements.take count) position (items.take count) middle := by
  induction chained generalizing count with
  | nil position => exact ⟨position, by simpa using Chained.nil position⟩
  | cons first rest hypothesis =>
    cases count with
    | zero => exact ⟨_, .nil _⟩
    | succ count =>
      obtain ⟨middle, earlier⟩ := hypothesis count
      exact ⟨middle, .cons first earlier⟩

end Chained

namespace Kind

/-- A terminal of an admissible kind covers at least one token, and none that is not there. -/
theorem Covers.bounds {case : CasePolicy} {tokens : List Token} {start stop size : Nat}
    {kind : Kind} (covers : kind.Covers case tokens start stop)
    (admissible : kind.Admissible case size) :
    start < stop ∧ stop ≤ tokens.length := by
  cases kind with
  | literals set =>
    obtain ⟨member, stored, width, equal⟩ := covers
    obtain ⟨-, members, rfl, -⟩ := admissible
    have filled := List.length_pos_iff.2 (LiteralSet.memberWords_ne_nil case members member stored)
    have lengths := congrArg List.length equal
    simp only [List.length_map, List.length_take, List.length_drop] at lengths
    omega
  | pattern matcher =>
    obtain ⟨rfl, token, found, -⟩ := covers
    have inside := (List.getElem?_eq_some_iff.1 found).1
    omega
  | sequence children => exact covers.elim
  | choice children => exact covers.elim
  | optional inner => exact covers.elim
  | repetition inner min max => exact covers.elim

/-- Where the search lists a stop for a terminal, the terminal covers the tokens up to it. -/
theorem mem_terminalEnds {grammar : Grammar} {kind : Kind} {size : Nat}
    (admissible : kind.Admissible grammar.case size) (options : MatchOptions) (tokens : List Token)
    (start stop : Nat) :
    stop ∈ (Search.of grammar options tokens).terminalEnds kind start ↔
      kind.Covers grammar.case tokens start stop := by
  cases kind with
  | literals set =>
    obtain ⟨-, members, rfl, -⟩ := admissible
    simp only [Search.terminalEnds, LiteralSet.mem_matchEnds, LiteralSet.mem_words_ofMembers,
      Search.of, Covers, ← List.map_drop, ← List.map_take]
    constructor
    · rintro ⟨words, ⟨member, stored, rfl⟩, equal, rfl⟩
      refine ⟨member, stored, by simp, ?_⟩
      rw [Nat.add_sub_cancel_left]
      exact equal.symm
    · rintro ⟨member, stored, rfl, equal⟩
      refine ⟨_, ⟨member, stored, rfl⟩, ?_, by simp⟩
      rw [Nat.add_sub_cancel_left] at equal
      rw [List.length_map]
      exact equal.symm
  | pattern matcher =>
    simp only [Search.terminalEnds, Search.of, Covers, List.getElem?_map]
    cases found : tokens[start]? with
    | none => simp
    | some token =>
      by_cases accepted : matcher.accepts token.text = true
      · simp [accepted]
      · simp [accepted]
  | sequence children => simp [Search.terminalEnds, Covers]
  | choice children => simp [Search.terminalEnds, Covers]
  | optional inner => simp [Search.terminalEnds, Covers]
  | repetition inner min max => simp [Search.terminalEnds, Covers]

end Kind

/-- Parts whose leaves are in order have leaves in order together. -/
theorem Chained.ordered {elements : List Nat} {position stop : Nat} {parts : List (List Leaf)}
    (chained : Chained (fun _ => Leaf.Ordered) elements position parts stop) :
    Leaf.Ordered position parts.flatten stop := by
  induction chained with
  | nil position => exact rfl
  | cons first rest hypothesis => exact first.append hypothesis

/-- Chained matches that go no further than a bound go no further together. -/
theorem Chained.stop_le {α : Type} {elements : List Nat} {position stop length : Nat}
    {items : List α}
    (chained : Chained (fun _ start _ stop => stop ≤ max start length) elements position items
      stop) :
    stop ≤ max position length := by
  induction chained with
  | nil position => exact Nat.le_max_left _ _
  | cons first rest hypothesis => omega

/-- Parts without leaves together have none apart. -/
theorem Chained.each_of_flatten_eq_nil {property : Nat → Prop} {elements : List Nat}
    {position stop : Nat} {parts : List (List Leaf)}
    (chained : Chained (fun element _ part _ => part = [] → property element) elements position
      parts stop)
    (empty : parts.flatten = []) : ∀ element ∈ elements, property element := by
  induction chained with
  | nil position => simp
  | cons first rest hypothesis =>
    rw [List.flatten_cons, List.append_eq_nil_iff] at empty
    intro element member
    rcases List.mem_cons.1 member with rfl | member
    · exact first empty.1
    · exact hypothesis empty.2 element member

section

variable {grammar : Grammar} {budget : SkipBudget} {tokens : List Token}
  {element position stop : Nat} {leaves : List Leaf}

/-- A match of a terminal covers tokens within reach. -/
theorem Matches.of_terminal {kind : Kind} (present : kindOf? grammar.elements element = some kind)
    (direct : kind.isTerminal = true)
    (matched : Matches grammar budget tokens element position leaves stop) :
    ∃ start, leaves = [⟨start, stop⟩] ∧ position ≤ start ∧
      start < budget.searchLimit position tokens.length ∧
      kind.Covers grammar.case tokens start stop := by
  cases matched with
  | @terminal _ _ start _ _ found after near covers =>
    obtain rfl := Option.some.inj (present.symm.trans found)
    exact ⟨start, rfl, after, near, covers⟩
  | sequence found | choice found | optional found | omitted found | repetition found =>
    obtain rfl := Option.some.inj (present.symm.trans found)
    exact absurd direct (by simp [Kind.isTerminal])

/-- A match of a sequence chains matches of its children. -/
theorem Matches.of_sequence {children : List Nat}
    (present : kindOf? grammar.elements element = some (.sequence children))
    (matched : Matches grammar budget tokens element position leaves stop) :
    ∃ parts, leaves = parts.flatten ∧
      Chained (Matches grammar budget tokens) children position parts stop := by
  cases matched with
  | sequence found chained =>
    obtain rfl := Kind.sequence.inj (Option.some.inj (present.symm.trans found))
    exact ⟨_, rfl, chained⟩
  | terminal found after near covers =>
    obtain rfl := Option.some.inj (present.symm.trans found)
    exact covers.elim
  | choice found | optional found | omitted found | repetition found =>
    exact absurd (Option.some.inj (present.symm.trans found)) (by simp)

/-- A match of a choice is one of an alternative. -/
theorem Matches.of_choice {children : List Nat}
    (present : kindOf? grammar.elements element = some (.choice children))
    (matched : Matches grammar budget tokens element position leaves stop) :
    ∃ child ∈ children, Matches grammar budget tokens child position leaves stop := by
  cases matched with
  | choice found member inside =>
    obtain rfl := Kind.choice.inj (Option.some.inj (present.symm.trans found))
    exact ⟨_, member, inside⟩
  | terminal found after near covers =>
    obtain rfl := Option.some.inj (present.symm.trans found)
    exact covers.elim
  | sequence found | optional found | omitted found | repetition found =>
    exact absurd (Option.some.inj (present.symm.trans found)) (by simp)

/-- A match of an optional element is one of its child, or empty. -/
theorem Matches.of_optional {inner : Nat}
    (present : kindOf? grammar.elements element = some (.optional inner))
    (matched : Matches grammar budget tokens element position leaves stop) :
    Matches grammar budget tokens inner position leaves stop ∨ (leaves = [] ∧ stop = position) := by
  cases matched with
  | optional found inside =>
    obtain rfl := Kind.optional.inj (Option.some.inj (present.symm.trans found))
    exact Or.inl inside
  | omitted found => exact Or.inr ⟨rfl, rfl⟩
  | terminal found after near covers =>
    obtain rfl := Option.some.inj (present.symm.trans found)
    exact covers.elim
  | sequence found | choice found | repetition found =>
    exact absurd (Option.some.inj (present.symm.trans found)) (by simp)

/-- A match of a repetition chains as many occurrences as its bounds allow. -/
theorem Matches.of_repetition {inner min : Nat} {max : Option Nat}
    (present : kindOf? grammar.elements element = some (.repetition inner min max))
    (matched : Matches grammar budget tokens element position leaves stop) :
    ∃ count parts, leaves = parts.flatten ∧ min ≤ count ∧
      (∀ most, max = some most → count ≤ most) ∧
      Chained (Matches grammar budget tokens) (List.replicate count inner) position parts stop := by
  cases matched with
  | @repetition _ _ _ _ count _ _ parts found enough few chained =>
    obtain ⟨rfl, rfl, rfl⟩ := Kind.repetition.inj (Option.some.inj (present.symm.trans found))
    exact ⟨count, parts, rfl, enough, few, chained⟩
  | terminal found after near covers =>
    obtain rfl := Option.some.inj (present.symm.trans found)
    exact covers.elim
  | sequence found | choice found | optional found | omitted found =>
    exact absurd (Option.some.inj (present.symm.trans found)) (by simp)

/-- Induction over matches of grounded elements: what holds of the matches of children holds of the
matches of their parent. -/
theorem Matches.induction (grounded : Grounded grammar.case grammar.elements)
    {motive : Nat → Nat → List Leaf → Nat → Prop}
    (terminal : ∀ element position start stop kind, kindOf? grammar.elements element = some kind →
      position ≤ start → start < budget.searchLimit position tokens.length →
      kind.Covers grammar.case tokens start stop → motive element position [⟨start, stop⟩] stop)
    (sequence : ∀ element position stop children parts,
      kindOf? grammar.elements element = some (.sequence children) →
      Chained motive children position parts stop → motive element position parts.flatten stop)
    (choice : ∀ element position child stop children leaves,
      kindOf? grammar.elements element = some (.choice children) → child ∈ children →
      motive child position leaves stop → motive element position leaves stop)
    (optional : ∀ element position inner stop leaves,
      kindOf? grammar.elements element = some (.optional inner) →
      motive inner position leaves stop → motive element position leaves stop)
    (omitted : ∀ element position inner, kindOf? grammar.elements element = some (.optional inner) →
      motive element position [] position)
    (repetition : ∀ element position inner min count stop max parts,
      kindOf? grammar.elements element = some (.repetition inner min max) → min ≤ count →
      (∀ most, max = some most → count ≤ most) →
      Chained motive (List.replicate count inner) position parts stop →
      motive element position parts.flatten stop)
    (matched : Matches grammar budget tokens element position leaves stop) :
    motive element position leaves stop := by
  induction element using Nat.strongRecOn generalizing position leaves stop with
  | ind element hypothesis =>
  cases matched with
  | terminal present after near covers => exact terminal _ _ _ _ _ present after near covers
  | sequence present chained =>
    exact sequence _ _ _ _ _ present (chained.imp fun child member _ _ _ inside =>
      hypothesis child (grounded.child_lt present member) inside)
  | choice present member inside =>
    exact choice _ _ _ _ _ _ present member
      (hypothesis _ (grounded.child_lt present member) inside)
  | optional present inside =>
    exact optional _ _ _ _ _ present
      (hypothesis _ (grounded.child_lt present List.mem_cons_self) inside)
  | omitted present => exact omitted _ _ _ present
  | repetition present enough few chained =>
    refine repetition _ _ _ _ _ _ _ _ present enough few ?_
    refine chained.imp fun child member _ _ _ inside => ?_
    obtain rfl := List.eq_of_mem_replicate member
    exact hypothesis child (grounded.child_lt present List.mem_cons_self) inside

/-- What holds of all that terminals cover holds of each leaf of a match. -/
theorem Matches.forall_leaf (grounded : Grounded grammar.case grammar.elements)
    {property : Leaf → Prop}
    (terminal : ∀ element kind start stop, kindOf? grammar.elements element = some kind →
      kind.Covers grammar.case tokens start stop → property ⟨start, stop⟩)
    (matched : Matches grammar budget tokens element position leaves stop) :
    ∀ leaf ∈ leaves, property leaf := by
  have parts : ∀ {elements : List Nat} {position stop : Nat} {parts : List (List Leaf)},
      Chained (fun _ _ part _ => ∀ leaf ∈ part, property leaf) elements position parts stop →
        ∀ leaf ∈ parts.flatten, property leaf := by
    intro elements position stop parts chained leaf listed
    obtain ⟨part, member, inside⟩ := List.mem_flatten.1 listed
    exact chained.forall_mem (fun _ _ _ _ each => each) part member leaf inside
  refine Matches.induction (motive := fun _ _ leaves _ => ∀ leaf ∈ leaves, property leaf)
    grounded ?_ ?_ ?_ ?_ ?_ ?_ matched
  · intro element position start stop kind present after near covers leaf listed
    rw [List.mem_singleton.1 listed]
    exact terminal element kind start stop present covers
  · intro element position stop children parts' present chained
    exact parts chained
  · intro element position child stop children leaves present member inside
    exact inside
  · intro element position inner stop leaves present inside
    exact inside
  · intro element position inner present
    simp
  · intro element position inner min count stop max parts' present enough few chained
    exact parts chained

/-- The leaves of a match are in order and end where it stops. -/
theorem Matches.ordered (grounded : Grounded grammar.case grammar.elements)
    (matched : Matches grammar budget tokens element position leaves stop) :
    Leaf.Ordered position leaves stop := by
  refine Matches.induction (motive := fun _ => Leaf.Ordered) grounded ?_ ?_ ?_ ?_ ?_ ?_ matched
  · intro element position start stop kind present after near covers
    exact ⟨after, (covers.bounds (grounded.admissible _ _ present)).1, rfl⟩
  · intro element position stop children parts present chained
    exact chained.ordered
  · intro element position child stop children leaves present member inside
    exact inside
  · intro element position inner stop leaves present inside
    exact inside
  · intro element position inner present
    rfl
  · intro element position inner min count stop max parts present enough few chained
    exact chained.ordered

/-- A match covers no tokens that are not there. -/
theorem Matches.stop_le (grounded : Grounded grammar.case grammar.elements)
    (matched : Matches grammar budget tokens element position leaves stop) :
    stop ≤ max position tokens.length := by
  refine Matches.induction (motive := fun _ position _ stop => stop ≤ max position tokens.length)
    grounded ?_ ?_ ?_ ?_ ?_ ?_ matched
  · intro element position start stop kind present after near covers
    have inside := (covers.bounds (grounded.admissible _ _ present)).2
    omega
  · intro element position stop children parts present chained
    exact chained.stop_le
  · intro element position child stop children leaves present member inside
    exact inside
  · intro element position inner stop leaves present inside
    exact inside
  · intro element position inner present
    exact Nat.le_max_left _ _
  · intro element position inner min count stop max parts present enough few chained
    exact chained.stop_le

/-- A match that is not empty is searched for from a token that is there. -/
theorem Matches.position_lt (grounded : Grounded grammar.case grammar.elements)
    (matched : Matches grammar budget tokens element position leaves stop) (shown : leaves ≠ []) :
    position < tokens.length := by
  have ordered := matched.ordered grounded
  have within := matched.stop_le grounded
  have forward := ordered.le_stop
  have moves : stop ≠ position := fun still => shown (ordered.stop_eq_iff.1 still)
  omega

/-- An element that has a match without leaves is marked so. -/
theorem Matches.nullable (grounded : Grounded grammar.case grammar.elements)
    (matched : Matches grammar budget tokens element position leaves stop) (empty : leaves = []) :
    elementNullable grammar.elements element = true := by
  revert empty
  refine Matches.induction (motive := fun element _ leaves _ =>
    leaves = [] → elementNullable grammar.elements element = true)
    grounded ?_ ?_ ?_ ?_ ?_ ?_ matched
  · intro element position start stop kind present after near covers empty
    exact absurd empty (by simp)
  · intro element position stop children parts present chained empty
    rw [grounded.nullable _ _ present]
    simpa [Kind.nullable] using chained.each_of_flatten_eq_nil empty
  · intro element position child stop children leaves present member inside empty
    rw [grounded.nullable _ _ present]
    simpa [Kind.nullable] using ⟨child, member, inside empty⟩
  · intro element position inner stop leaves present inside empty
    rw [grounded.nullable _ _ present, Kind.nullable]
  · intro element position inner present empty
    rw [grounded.nullable _ _ present, Kind.nullable]
  · intro element position inner min count stop max parts present enough few chained empty
    rw [grounded.nullable _ _ present]
    simp only [Kind.nullable, Bool.or_eq_true, beq_iff_eq]
    by_cases none : count = 0
    · exact Or.inl (by omega)
    · exact Or.inr (chained.each_of_flatten_eq_nil empty inner (by simp [none]))

/-- Empty matches of elements chain at a position. -/
theorem chained_nil {elements : List Nat} (position : Nat)
    (each : ∀ element ∈ elements, Matches grammar budget tokens element position [] position) :
    ∃ parts, parts.flatten = [] ∧
      Chained (Matches grammar budget tokens) elements position parts position := by
  induction elements with
  | nil => exact ⟨[], rfl, .nil position⟩
  | cons element rest hypothesis =>
    obtain ⟨parts, empty, chained⟩ := hypothesis fun child member =>
      each child (List.mem_cons_of_mem _ member)
    exact ⟨[] :: parts, by simpa using empty, .cons (each element List.mem_cons_self) chained⟩

/-- An element that is marked as having an empty match has one at every position. -/
theorem matches_nil_of_nullable (grounded : Grounded grammar.case grammar.elements)
    (marked : elementNullable grammar.elements element = true) (position : Nat) :
    Matches grammar budget tokens element position [] position := by
  induction element using Nat.strongRecOn with
  | ind element hypothesis =>
  cases present : kindOf? grammar.elements element with
  | none =>
    have absent : grammar.elements[element]? = none := by simpa [kindOf?] using present
    exact absurd marked (by simp [elementNullable, absent])
  | some kind =>
    have below : ∀ child ∈ kind.children, child < element := fun child member =>
      grounded.child_lt present member
    rw [grounded.nullable _ _ present] at marked
    cases kind with
    | literals set => exact absurd marked (by simp [Kind.nullable])
    | pattern matcher => exact absurd marked (by simp [Kind.nullable])
    | sequence children =>
      rw [Kind.nullable, List.all_eq_true] at marked
      obtain ⟨parts, empty, chained⟩ := chained_nil position fun child member =>
        hypothesis child (below child member) (marked child member)
      rw [← empty]
      exact .sequence present chained
    | choice children =>
      rw [Kind.nullable, List.any_eq_true] at marked
      obtain ⟨child, member, empty⟩ := marked
      exact .choice present member (hypothesis child (below child member) empty)
    | optional inner => exact .omitted present
    | repetition inner min max =>
      have bounds := (grounded.admissible _ _ present).2
      rw [Kind.nullable, Bool.or_eq_true, beq_iff_eq] at marked
      have each : ∀ child ∈ List.replicate min inner,
          Matches grammar budget tokens child position [] position := by
        intro child member
        obtain ⟨some, rfl⟩ := List.mem_replicate.1 member
        exact hypothesis child (below child List.mem_cons_self) (marked.resolve_left some)
      obtain ⟨parts, empty, chained⟩ := chained_nil position each
      rw [← empty]
      refine .repetition present (Nat.le_refl min) ?_ chained
      rintro most rfl
      exact Lowering.min_le_of_boundsFault? bounds

/-- Occurrences that are too few are a match of a repetition if empty ones make up for them. -/
theorem matches_repetition (grounded : Grounded grammar.case grammar.elements)
    {inner min count : Nat} {max : Option Nat} {parts : List (List Leaf)}
    (present : kindOf? grammar.elements element = some (.repetition inner min max))
    (enough : elementNullable grammar.elements inner = false → min ≤ count)
    (few : ∀ most, max = some most → count ≤ most)
    (chained : Chained (Matches grammar budget tokens) (List.replicate count inner) position parts
      stop) :
    Matches grammar budget tokens element position parts.flatten stop := by
  by_cases met : min ≤ count
  · exact .repetition present met few chained
  · have marked : elementNullable grammar.elements inner = true := by
      by_contra unmarked
      exact met (enough (by simpa using unmarked))
    have padding : ∀ child ∈ List.replicate (min - count) inner,
        Matches grammar budget tokens child stop [] stop := by
      intro child member
      rw [List.eq_of_mem_replicate member]
      exact matches_nil_of_nullable grounded marked stop
    obtain ⟨hollow, empty, more⟩ := chained_nil stop padding
    have whole := chained.append more
    rw [List.replicate_append_replicate, Nat.add_sub_of_le (Nat.le_of_not_le met)] at whole
    have same : parts.flatten = (parts ++ hollow).flatten := by
      rw [List.flatten_append, empty, List.append_nil]
    rw [same]
    refine .repetition present (Nat.le_refl min) ?_ whole
    rintro most rfl
    exact Lowering.min_le_of_boundsFault? (grounded.admissible _ _ present).2

/-- What becomes of a match when its search starts earlier: one that is not empty stays, and an
empty one moves along. -/
def Moves (grammar : Grammar) (budget : SkipBudget) (tokens : List Token)
    (element position : Nat) (leaves : List Leaf) (stop : Nat) : Prop :=
  ∀ before ≤ position,
    (leaves ≠ [] → Matches grammar budget tokens element before leaves stop) ∧
    (leaves = [] → Matches grammar budget tokens element before [] before ∧ stop = position)

/-- When every part moves, the chain does. -/
theorem Chained.moves {elements : List Nat} {parts : List (List Leaf)}
    (chained : Chained (Moves grammar budget tokens) elements position parts stop) :
    ∀ before ≤ position,
      (parts.flatten ≠ [] → Chained (Matches grammar budget tokens) elements before parts stop) ∧
      (parts.flatten = [] →
        Chained (Matches grammar budget tokens) elements before parts before ∧
          stop = position) := by
  induction chained with
  | nil position =>
    intro before le
    exact ⟨fun present => absurd rfl present, fun _ => ⟨.nil before, rfl⟩⟩
  | @cons element position middle stop part elements parts first rest hypothesis =>
    intro before le
    by_cases empty : part = []
    · obtain ⟨moved, rfl⟩ := (first before le).2 empty
      obtain ⟨filled, hollow⟩ := hypothesis before le
      rw [empty, List.flatten_cons, List.nil_append]
      exact ⟨fun present => .cons moved (filled present),
        fun none => ⟨.cons moved (hollow none).1, (hollow none).2⟩⟩
    · -- The first part keeps its leaves, so the others are searched for from where they were.
      have kept := (first before le).1 empty
      refine ⟨fun _ => .cons kept ?_, fun none => absurd none (by simp [empty])⟩
      obtain ⟨filled, hollow⟩ := hypothesis middle (Nat.le_refl _)
      by_cases none : parts.flatten = []
      · obtain ⟨others, rfl⟩ := hollow none
        exact others
      · exact filled none

/-- Without a limit on noise every match moves. -/
theorem Matches.moves (grounded : Grounded grammar.case grammar.elements)
    (matched : Matches grammar .unlimited tokens element position leaves stop) :
    Moves grammar .unlimited tokens element position leaves stop := by
  refine Matches.induction (motive := Moves grammar .unlimited tokens) grounded
    ?_ ?_ ?_ ?_ ?_ ?_ matched
  · intro element position start stop kind present after near covers before le
    exact ⟨fun _ => .terminal present (Nat.le_trans le after) near covers,
      fun empty => absurd empty (by simp)⟩
  · intro element position stop children parts present chained before le
    obtain ⟨filled, hollow⟩ := chained.moves before le
    refine ⟨fun some => .sequence present (filled some), fun none => ⟨?_, (hollow none).2⟩⟩
    rw [← none]
    exact .sequence present (hollow none).1
  · intro element position child stop children leaves present member inside before le
    obtain ⟨filled, hollow⟩ := inside before le
    exact ⟨fun some => .choice present member (filled some),
      fun none => ⟨.choice present member (hollow none).1, (hollow none).2⟩⟩
  · intro element position inner stop leaves present inside before le
    obtain ⟨filled, hollow⟩ := inside before le
    exact ⟨fun some => .optional present (filled some),
      fun none => ⟨.optional present (hollow none).1, (hollow none).2⟩⟩
  · intro element position inner present before le
    exact ⟨fun some => absurd rfl some, fun _ => ⟨.omitted present, rfl⟩⟩
  · intro element position inner min count stop max parts present enough few chained before le
    obtain ⟨filled, hollow⟩ := chained.moves before le
    refine ⟨fun some => .repetition present enough few (filled some),
      fun none => ⟨?_, (hollow none).2⟩⟩
    rw [← none]
    exact .repetition present enough few (hollow none).1

/-- Without a limit on noise, a match that is not empty is one from every earlier position. -/
theorem Matches.earlier (grounded : Grounded grammar.case grammar.elements) {before : Nat}
    (matched : Matches grammar .unlimited tokens element position leaves stop)
    (present : leaves ≠ []) (le : before ≤ position) :
    Matches grammar .unlimited tokens element before leaves stop :=
  (matched.moves grounded before le).1 present

end

end Utterance

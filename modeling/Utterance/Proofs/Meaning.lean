import Utterance.Proofs.Admission
import Utterance.Proofs.Match

/-!
# What an expression means

An expression has a meaning of its own, without elements: `Expr.Means` says which leaves a phrase
may have from a position and where it stops. The name of a definition means what its expression
means, and a name that is given inside an expression changes nothing. When no derived name is asked
for with two shapes, building a grammar keeps this meaning: the element of each definition matches
what the expression means (`Declaration.Faithful.agrees`). Elements are shared and found by name, so
the proof follows their order: an element is made of earlier ones, and each part of an expression
has the element that its name leads to.
-/
namespace Utterance

namespace Expr

mutual

/-- The phrases that an expression describes, from a position: their leaves and where they stop. -/
inductive Means (definitions : List Definition) (case : CasePolicy) (budget : SkipBudget)
    (tokens : List Token) :
    Expr → (position : Nat) → (leaves : List Leaf) → (stop : Nat) → Prop where
  /-- Literals cover the words of a member within reach. -/
  | literals {members : List String} {position start stop : Nat} (after : position ≤ start)
      (near : start < budget.searchLimit position tokens.length)
      (covers : (Kind.literals (.ofMembers case members)).Covers case tokens start stop) :
      Means definitions case budget tokens (.literals members) position [⟨start, stop⟩] stop
  /-- A pattern covers a token that it accepts within reach. -/
  | pattern {source : String} {matcher : Pattern} {position start stop : Nat}
      (compiled : Pattern.compile case source = .ok matcher) (after : position ≤ start)
      (near : start < budget.searchLimit position tokens.length)
      (covers : (Kind.pattern matcher).Covers case tokens start stop) :
      Means definitions case budget tokens (.pattern source) position [⟨start, stop⟩] stop
  /-- A sequence means its children in order. -/
  | sequence {children : List Expr} {position stop : Nat} {parts : List (List Leaf)}
      (chained : MeansAll definitions case budget tokens children position parts stop) :
      Means definitions case budget tokens (.sequence children) position parts.flatten stop
  /-- A choice means what one of its children means. -/
  | choice {child : Expr} {children : List Expr} {position stop : Nat} {leaves : List Leaf}
      (member : child ∈ children)
      (inside : Means definitions case budget tokens child position leaves stop) :
      Means definitions case budget tokens (.choice children) position leaves stop
  /-- An optional phrase may be there. -/
  | optional {inner : Expr} {position stop : Nat} {leaves : List Leaf}
      (inside : Means definitions case budget tokens inner position leaves stop) :
      Means definitions case budget tokens (.optional inner) position leaves stop
  /-- An optional phrase may be left out. -/
  | omitted {inner : Expr} {position : Nat} :
      Means definitions case budget tokens (.optional inner) position [] position
  /-- A repetition means its phrase several times in order, as often as its bounds allow. -/
  | repetition {inner : Expr} {position min count stop : Nat} {max : Option Nat}
      {parts : List (List Leaf)} (enough : min ≤ count)
      (few : ∀ most, max = some most → count ≤ most)
      (chained : MeansAll definitions case budget tokens (List.replicate count inner) position parts
        stop) :
      Means definitions case budget tokens (.repetition inner min max) position parts.flatten stop
  /-- The name of a definition means its expression. -/
  | rule {definition : Definition} {position stop : Nat} {leaves : List Leaf}
      (given : definition ∈ definitions)
      (inside : Means definitions case budget tokens definition.expr position leaves stop) :
      Means definitions case budget tokens (.rule definition.name) position leaves stop
  /-- A name changes nothing. -/
  | named {name : String} {inner : Expr} {position stop : Nat} {leaves : List Leaf}
      (inside : Means definitions case budget tokens inner position leaves stop) :
      Means definitions case budget tokens (.named name inner) position leaves stop

/-- The phrases that expressions describe one after another, each from where the one before stops.
-/
inductive MeansAll (definitions : List Definition) (case : CasePolicy) (budget : SkipBudget)
    (tokens : List Token) :
    List Expr → (position : Nat) → (parts : List (List Leaf)) → (stop : Nat) → Prop where
  /-- Nothing stops where it is. -/
  | nil (position : Nat) : MeansAll definitions case budget tokens [] position [] position
  /-- A phrase, and others from where it stops. -/
  | cons {child : Expr} {rest : List Expr} {position middle stop : Nat} {leaves : List Leaf}
      {parts : List (List Leaf)}
      (first : Means definitions case budget tokens child position leaves middle)
      (others : MeansAll definitions case budget tokens rest middle parts stop) :
      MeansAll definitions case budget tokens (child :: rest) position (leaves :: parts) stop

end

end Expr

/-- Whether an element matches exactly what an expression means. -/
def Agrees (declaration : Declaration) (grammar : Grammar) (id : Nat) (expr : Expr) : Prop :=
  ∀ budget tokens position leaves stop, Matches grammar budget tokens id position leaves stop ↔
    expr.Means declaration.definitions declaration.case budget tokens position leaves stop

namespace Agrees

variable {declaration : Declaration} {grammar : Grammar} {id inner : Nat} {expr : Expr}
  {ids : List Nat} {exprs : List Expr}

/-- Literals that are brought to a common form in the same way. -/
theorem literals {members : List String} (policy : grammar.case = declaration.case)
    (present : kindOf? grammar.elements id =
      some (.literals (.ofMembers declaration.case members))) :
    Agrees declaration grammar id (.literals members) := by
  intro budget tokens position leaves stop
  constructor
  · intro matched
    obtain ⟨start, rfl, after, near, covers⟩ := matched.of_terminal present rfl
    exact .literals after near (policy ▸ covers)
  · rintro ⟨after, near, covers⟩
    exact .terminal present after near (policy ▸ covers)

/-- A pattern that is compiled from its source. -/
theorem pattern {source : String} {matcher : Pattern} (policy : grammar.case = declaration.case)
    (compiled : Pattern.compile declaration.case source = .ok matcher)
    (present : kindOf? grammar.elements id = some (.pattern matcher)) :
    Agrees declaration grammar id (.pattern source) := by
  intro budget tokens position leaves stop
  constructor
  · intro matched
    obtain ⟨start, rfl, after, near, covers⟩ := matched.of_terminal present rfl
    exact .pattern compiled after near (policy ▸ covers)
  · intro means
    cases means with
    | pattern again after near covers =>
      obtain rfl := Except.ok.inj (compiled.symm.trans again)
      exact .terminal present after near (policy ▸ covers)

/-- Chains of elements that agree with expressions one by one. -/
theorem chained_iff (each : List.Forall₂ (Agrees declaration grammar) ids exprs)
    (budget : SkipBudget) (tokens : List Token) (position : Nat) (parts : List (List Leaf))
    (stop : Nat) :
    Chained (Matches grammar budget tokens) ids position parts stop ↔
      Expr.MeansAll declaration.definitions declaration.case budget tokens exprs position parts
        stop := by
  induction each generalizing position parts with
  | nil =>
    constructor
    · rintro ⟨⟩
      exact .nil _
    · rintro ⟨⟩
      exact .nil _
  | cons agrees _ hypothesis =>
    constructor
    · intro chained
      cases chained with
      | cons first rest => exact .cons ((agrees ..).1 first) ((hypothesis ..).1 rest)
    · intro means
      cases means with
      | cons first rest => exact .cons ((agrees ..).2 first) ((hypothesis ..).2 rest)

/-- A sequence of elements that agree with the children. -/
theorem sequence (present : kindOf? grammar.elements id = some (.sequence ids))
    (each : List.Forall₂ (Agrees declaration grammar) ids exprs) :
    Agrees declaration grammar id (.sequence exprs) := by
  intro budget tokens position leaves stop
  constructor
  · intro matched
    obtain ⟨parts, rfl, chained⟩ := matched.of_sequence present
    exact .sequence ((chained_iff each ..).1 chained)
  · intro means
    cases means with
    | sequence chained => exact .sequence present ((chained_iff each ..).2 chained)

/-- One of the elements matches what one of the expressions means. -/
theorem exists_iff (each : List.Forall₂ (Agrees declaration grammar) ids exprs)
    (budget : SkipBudget) (tokens : List Token) (position : Nat) (leaves : List Leaf)
    (stop : Nat) :
    (∃ id ∈ ids, Matches grammar budget tokens id position leaves stop) ↔
      ∃ expr ∈ exprs, expr.Means declaration.definitions declaration.case budget tokens position
        leaves stop := by
  induction each with
  | nil => simp
  | cons agrees _ hypothesis => simp only [List.exists_mem_cons_iff, agrees _, hypothesis]

/-- A choice of elements that agree with the children. -/
theorem choice (present : kindOf? grammar.elements id = some (.choice ids))
    (each : List.Forall₂ (Agrees declaration grammar) ids exprs) :
    Agrees declaration grammar id (.choice exprs) := by
  intro budget tokens position leaves stop
  constructor
  · intro matched
    obtain ⟨expr, listed, means⟩ := (exists_iff each ..).1 (matched.of_choice present)
    exact .choice listed means
  · intro means
    cases means with
    | choice listed inside =>
      obtain ⟨child, member, matched⟩ := (exists_iff each ..).2 ⟨_, listed, inside⟩
      exact .choice present member matched

/-- A choice with one alternative stands for that alternative. -/
theorem single (present : kindOf? grammar.elements id = some (.choice [inner]))
    (agrees : Agrees declaration grammar inner expr) : Agrees declaration grammar id expr := by
  intro budget tokens position leaves stop
  rw [← agrees]
  constructor
  · intro matched
    obtain ⟨child, member, inside⟩ := matched.of_choice present
    obtain rfl := List.mem_singleton.1 member
    exact inside
  · exact .choice present List.mem_cons_self

/-- An optional element whose child agrees. -/
theorem optional (present : kindOf? grammar.elements id = some (.optional inner))
    (agrees : Agrees declaration grammar inner expr) :
    Agrees declaration grammar id (.optional expr) := by
  intro budget tokens position leaves stop
  constructor
  · intro matched
    rcases matched.of_optional present with inside | ⟨rfl, rfl⟩
    · exact .optional ((agrees ..).1 inside)
    · exact .omitted
  · intro means
    cases means with
    | optional inside => exact .optional present ((agrees ..).2 inside)
    | omitted => exact .omitted present

/-- A repetition whose child agrees. -/
theorem repetition {min : Nat} {max : Option Nat}
    (present : kindOf? grammar.elements id = some (.repetition inner min max))
    (agrees : Agrees declaration grammar inner expr) :
    Agrees declaration grammar id (.repetition expr min max) := by
  have each : ∀ count, List.Forall₂ (Agrees declaration grammar) (List.replicate count inner)
      (List.replicate count expr) := by
    intro count
    induction count with
    | zero => exact .nil
    | succ count hypothesis => exact .cons agrees hypothesis
  intro budget tokens position leaves stop
  constructor
  · intro matched
    obtain ⟨count, parts, rfl, enough, few, chained⟩ := matched.of_repetition present
    exact .repetition enough few ((chained_iff (each _) ..).1 chained)
  · intro means
    cases means with
    | repetition enough few chained =>
      exact .repetition present enough few ((chained_iff (each _) ..).2 chained)

/-- A name changes nothing. -/
theorem named (name : String) (agrees : Agrees declaration grammar id expr) :
    Agrees declaration grammar id (.named name expr) := by
  intro budget tokens position leaves stop
  rw [agrees]
  constructor
  · exact .named
  · rintro ⟨⟩
    assumption

/-- The name of a definition, where names are given once. -/
theorem rule (distinct : (declaration.definitions.map (·.name)).Nodup) {definition : Definition}
    (given : definition ∈ declaration.definitions)
    (agrees : Agrees declaration grammar id definition.expr) :
    Agrees declaration grammar id (.rule definition.name) := by
  intro budget tokens position leaves stop
  rw [agrees]
  constructor
  · exact .rule given
  · generalize same : definition.name = name
    intro means
    cases means with
    | @rule other _ _ _ listed inside =>
      obtain rfl := List.inj_on_of_nodup_map distinct given listed same
      exact inside

end Agrees

/-- A request of a ledger has an element of its shape, if no derived name is asked for with two
shapes. -/
theorem Lowering.Records.exists_element {case : CasePolicy} {state : Lowering}
    {ledger : List Request} (records : Records case state ledger) {request : Request}
    (listed : request ∈ ledger)
    (unambiguous : ∀ other ∈ ledger, request.explicit = false → other.explicit = false →
      request.name = other.name → request.shape = other.shape) :
    ∃ id kind, elementIndex? state.elements request.name = some id ∧
      kindOf? state.elements id = some kind ∧
      kind.shape (elementName state.elements) = request.shape := by
  obtain ⟨element, member, named, explicit⟩ := records.answered request listed
  obtain ⟨id, stands⟩ := List.mem_iff_getElem?.1 member
  obtain ⟨other, asked, same, marked, shaped⟩ := records.asked element member
  have names : request.name = other.name := named.symm.trans same.symm
  refine ⟨id, element.kind, ?_, by simp [kindOf?, stands], ?_⟩
  · rw [← named]
    exact elementIndex?_of_getElem? records.distinct stands
  · rw [← shaped]
    cases given : request.explicit with
    | false => exact (unambiguous other asked given (by rw [marked, explicit, given]) names).symm
    | true =>
      -- A given name is asked for once, so the element was made for this very request.
      by_contra differ
      have unlike : request ≠ other := fun one => differ (by rw [one])
      exact records.apart.forall listed asked unlike ⟨names, Or.inl given⟩

namespace Declaration

/-- A grammar that has, for each request of a declaration, an element of its shape. -/
structure Faithful (declaration : Declaration) (grammar : Grammar) : Prop where
  /-- The elements are grounded. -/
  grounded : Grounded declaration.case grammar.elements
  /-- No two elements have one name. -/
  apart : (grammar.elements.map (·.name)).Nodup
  /-- Text is compared as declared. -/
  policy : grammar.case = declaration.case
  /-- Each request has an element of its shape. -/
  found : ∀ request ∈ declaration.requests, ∃ id kind, grammar.lookup? request.name = some id ∧
    kindOf? grammar.elements id = some kind ∧ kind.shape grammar.nameOf = request.shape
  /-- Names are given once. -/
  distinct : (declaration.definitions.map (·.name)).Nodup
  /-- Names that are used are given. -/
  references : ∀ definition ∈ declaration.definitions, ∀ used ∈ definition.expr.references,
    used ∈ declaration.definitions.map (·.name)

/-- Whether an expression is part of a declaration, under a given name if there is one: its requests
are among those of the declaration, and the names it uses are given. -/
structure Part (declaration : Declaration) (expr : Expr) (given : Option String) : Prop where
  /-- The requests of the expression are made. -/
  requests : expr.requests declaration.case given ⊆ declaration.requests
  /-- Names that are used are given. -/
  references : expr.references ⊆ declaration.definitions.map (·.name)

variable {declaration : Declaration} {grammar : Grammar} {id : Nat}

/-- Whether each element before a place agrees with every part that leads to it. -/
def AgreesBelow (declaration : Declaration) (grammar : Grammar) (id : Nat) : Prop :=
  ∀ child < id, ∀ expr given, declaration.Part expr given →
    grammar.lookup? (given.getD (expr.name declaration.case)) = some child →
    Agrees declaration grammar child expr

/-- The expression of a definition is part of the declaration. -/
theorem Faithful.part (faithful : declaration.Faithful grammar) {definition : Definition}
    (given : definition ∈ declaration.definitions) :
    declaration.Part definition.expr (some definition.name) :=
  ⟨fun _ listed => List.mem_flatMap.2 ⟨definition, given, listed⟩,
    faithful.references definition given⟩

/-- The element of the last request of a part is found under the name of the part. -/
theorem Faithful.kind_of_found (faithful : declaration.Faithful grammar) {shape : Shape}
    {given : Option String} (early : List Request)
    (requests : early ++ [shape.request given] ⊆ declaration.requests)
    (found : grammar.lookup? (given.getD shape.name) = some id) :
    ∃ kind, kindOf? grammar.elements id = some kind ∧ kind.shape grammar.nameOf = shape := by
  have listed : shape.request given ∈ declaration.requests := requests (by simp)
  obtain ⟨other, kind, again, present, shaped⟩ := faithful.found _ listed
  obtain rfl := Option.some.inj (again.symm.trans found)
  exact ⟨kind, present, shaped⟩

/-- A child of an element agrees with each part that has its name: it stands before the element, and
it is found under its name. -/
theorem Faithful.child_agrees (faithful : declaration.Faithful grammar)
    (below : AgreesBelow declaration grammar id) {kind : Kind} {child : Nat} {expr : Expr}
    {given : Option String} (present : kindOf? grammar.elements id = some kind)
    (member : child ∈ kind.children) (part : declaration.Part expr given)
    (named : grammar.nameOf child = given.getD (expr.name declaration.case)) :
    Agrees declaration grammar child expr := by
  have before : child < id := faithful.grounded.child_lt present member
  have inside := Nat.lt_trans before (lt_length_of_kindOf? present)
  have stands := List.getElem?_eq_getElem inside
  refine below child before expr given part ?_
  rw [← named, Grammar.nameOf, elementName_of_getElem? stands]
  exact elementIndex?_of_getElem? faithful.apart stands

/-- The children of an element agree with the parts that have their names. -/
theorem Faithful.children_agree (faithful : declaration.Faithful grammar)
    (below : AgreesBelow declaration grammar id) {kind : Kind} {ids : List Nat} {exprs : List Expr}
    (present : kindOf? grammar.elements id = some kind) (members : ids ⊆ kind.children)
    (requests : Expr.requestsOfAll declaration.case exprs ⊆ declaration.requests)
    (references : Expr.referencesOfAll exprs ⊆ declaration.definitions.map (·.name))
    (named : ids.map grammar.nameOf = Expr.names declaration.case exprs) :
    List.Forall₂ (Agrees declaration grammar) ids exprs := by
  induction exprs generalizing ids with
  | nil =>
    obtain rfl : ids = [] := by simpa [Expr.names] using named
    exact .nil
  | cons expr rest hypothesis =>
    cases ids with
    | nil => exact absurd named (by simp [Expr.names])
    | cons child others =>
      obtain ⟨member, following⟩ := List.cons_subset.1 members
      obtain ⟨wanted, remaining⟩ := List.append_subset.1 requests
      obtain ⟨used, further⟩ := List.append_subset.1 references
      obtain ⟨same, names⟩ := List.cons.inj named
      exact .cons (faithful.child_agrees below present member ⟨wanted, used⟩ same)
        (hypothesis following remaining further names)

/-- Under a name from outside, a part leads to a choice of the element that it leads to under its
name inside. -/
theorem Faithful.agrees_outside (faithful : declaration.Faithful grammar)
    (below : AgreesBelow declaration grammar id) {expr : Expr} {inside outer : String}
    (part : declaration.Part expr (some inside)) (early : List Request)
    (requests : early ++ [(Shape.choice [inside]).request (some outer)] ⊆ declaration.requests)
    (found : grammar.lookup? outer = some id) : Agrees declaration grammar id expr := by
  obtain ⟨kind, present, shaped⟩ := faithful.kind_of_found _ requests found
  obtain ⟨ids, rfl, names⟩ := Kind.of_shape_eq shaped
  obtain ⟨child, rfl, named⟩ := List.map_eq_singleton_iff.1 names
  exact .single present (faithful.child_agrees below present List.mem_cons_self part named)

/-- The element that a part leads to agrees with it, if those before do, and if it agrees with every
part that is given its name. -/
theorem Faithful.agrees_step (faithful : declaration.Faithful grammar)
    (below : AgreesBelow declaration grammar id) (expr : Expr) (given : Option String)
    (again : given = none → ∀ expr name, declaration.Part expr (some name) →
      grammar.lookup? name = some id → Agrees declaration grammar id expr)
    (part : declaration.Part expr given)
    (found : grammar.lookup? (given.getD (expr.name declaration.case)) = some id) :
    Agrees declaration grammar id expr := by
  obtain ⟨requests, references⟩ := part
  cases expr with
  | literals members =>
    obtain ⟨kind, present, shaped⟩ := faithful.kind_of_found [] requests found
    obtain ⟨set, rfl, same⟩ := Kind.of_shape_eq shaped
    obtain ⟨-, stored, rfl, -⟩ := faithful.grounded.admissible id _ present
    exact .literals faithful.policy (LiteralSet.ofMembers_congr same ▸ present)
  | pattern source =>
    obtain ⟨kind, present, shaped⟩ := faithful.kind_of_found [] requests found
    obtain ⟨matcher, rfl, same⟩ := Kind.of_shape_eq shaped
    obtain ⟨-, text, compiled⟩ := faithful.grounded.admissible id _ present
    rw [← Pattern.source_of_compile compiled, same] at compiled
    exact .pattern faithful.policy compiled present
  | sequence children =>
    obtain ⟨kind, present, shaped⟩ := faithful.kind_of_found _ requests found
    obtain ⟨ids, rfl, named⟩ := Kind.of_shape_eq shaped
    have wanted := (List.append_subset.1 requests).1
    exact .sequence present
      (faithful.children_agree below present (List.Subset.refl ids) wanted references named)
  | choice children =>
    obtain ⟨kind, present, shaped⟩ := faithful.kind_of_found _ requests found
    obtain ⟨ids, rfl, named⟩ := Kind.of_shape_eq shaped
    have wanted := (List.append_subset.1 requests).1
    exact .choice present
      (faithful.children_agree below present (List.Subset.refl ids) wanted references named)
  | optional inner =>
    obtain ⟨kind, present, shaped⟩ := faithful.kind_of_found _ requests found
    obtain ⟨child, rfl, named⟩ := Kind.of_shape_eq shaped
    have part : declaration.Part inner none := ⟨(List.append_subset.1 requests).1, references⟩
    exact .optional present (faithful.child_agrees below present List.mem_cons_self part named)
  | repetition inner min max =>
    obtain ⟨kind, present, shaped⟩ := faithful.kind_of_found _ requests found
    obtain ⟨child, rfl, named⟩ := Kind.of_shape_eq shaped
    have part : declaration.Part inner none := ⟨(List.append_subset.1 requests).1, references⟩
    exact .repetition present (faithful.child_agrees below present List.mem_cons_self part named)
  | rule name =>
    obtain ⟨definition, member, rfl⟩ :=
      List.mem_map.1 (references (show name ∈ [name] from List.mem_cons_self))
    refine .rule faithful.distinct member ?_
    cases given with
    | none => exact again rfl _ _ (faithful.part member) found
    | some outer =>
      exact faithful.agrees_outside below (faithful.part member) [] requests found
  | named name inner =>
    refine .named name ?_
    cases given with
    | none => exact again rfl inner name ⟨requests, references⟩ found
    | some outer =>
      have part : declaration.Part inner (some name) :=
        ⟨(List.append_subset.1 requests).1, references⟩
      exact faithful.agrees_outside below part _ requests found

/-- The element that a part of a declaration leads to agrees with it. -/
theorem Faithful.agrees (faithful : declaration.Faithful grammar) (id : Nat) :
    ∀ expr given, declaration.Part expr given →
      grammar.lookup? (given.getD (expr.name declaration.case)) = some id →
      Agrees declaration grammar id expr := by
  induction id using Nat.strongRecOn with
  | ind id below =>
  -- Under a given name all children are earlier elements; without one the part may lead, through
  -- a reference or a name of its own, to a part that is given the same name.
  have named : ∀ expr name, declaration.Part expr (some name) →
      grammar.lookup? name = some id → Agrees declaration grammar id expr :=
    fun expr name => faithful.agrees_step below expr (some name) (by simp)
  exact fun expr given => faithful.agrees_step below expr given fun _ => named

/-- The grammar of an unambiguous declaration is faithful. -/
theorem Builds.faithful {state : Lowering} (builds : Builds declaration state grammar)
    (unambiguous : declaration.Unambiguous) : declaration.Faithful grammar := by
  obtain ⟨records, -, -⟩ := builds.records
  refine ⟨?_, ?_, builds.case, ?_, builds.distinct, builds.references⟩
  · rw [builds.elements]
    exact records.grounded
  · rw [builds.elements]
    exact records.distinct
  · intro request listed
    obtain ⟨id, kind, found, present, shaped⟩ :=
      records.exists_element listed (unambiguous request listed)
    rw [← builds.elements] at found present
    refine ⟨id, kind, found, present, ?_⟩
    rw [← shaped, ← builds.elements]
    rfl

/-- The root of a grammar is the element of its start symbol. -/
theorem Builds.lookup?_goal {state : Lowering} (builds : Builds declaration state grammar) :
    grammar.lookup? declaration.goal = some grammar.root := by
  obtain ⟨records, finished, -⟩ := builds.records
  obtain ⟨definition, member, named⟩ := List.mem_map.1 builds.goal
  have noted := finished definition member
  rw [named] at noted
  cases search : state.bound.lookup declaration.goal with
  | none =>
    obtain ⟨entry, listed, same⟩ := List.mem_map.1 noted
    exact absurd (List.lookup_eq_none_iff.1 search entry listed) (by simp [same])
  | some id =>
    obtain ⟨before, after, split, -⟩ := List.lookup_eq_some_iff.1 search
    obtain ⟨element, stands, same, -⟩ :=
      records.noted (declaration.goal, id) (by simp [split])
    have found := elementIndex?_of_getElem? records.distinct stands
    rw [same] at found
    rw [builds.root, search, Grammar.lookup?, builds.elements]
    exact found

/-- Building a grammar keeps the meaning of expressions, if no derived name is asked for with two
shapes: the element of each definition matches what its expression means, and the root matches what
the expression of the start symbol means. -/
theorem matches_iff_means (built : declaration.build = .ok grammar)
    (unambiguous : declaration.Unambiguous) :
    (∀ definition ∈ declaration.definitions, ∃ id, grammar.lookup? definition.name = some id ∧
      ∀ budget tokens position leaves stop,
        Matches grammar budget tokens id position leaves stop ↔
          definition.expr.Means declaration.definitions declaration.case budget tokens position
            leaves stop) ∧
    ∃ goal ∈ declaration.definitions, goal.name = declaration.goal ∧
      ∀ budget tokens position leaves stop,
        Matches grammar budget tokens grammar.root position leaves stop ↔
          goal.expr.Means declaration.definitions declaration.case budget tokens position leaves
            stop := by
  obtain ⟨state, builds⟩ := build_eq_ok_iff.1 built
  have faithful := builds.faithful unambiguous
  constructor
  · intro definition given
    obtain ⟨request, asked, named, -⟩ :=
      definition.expr.exists_mem_requests declaration.case definition.name
    obtain ⟨id, -, found, -, -⟩ :=
      faithful.found request (List.mem_flatMap.2 ⟨definition, given, asked⟩)
    rw [named] at found
    exact ⟨id, found, faithful.agrees id _ _ (faithful.part given) found⟩
  · obtain ⟨goal, given, named⟩ := List.mem_map.1 builds.goal
    refine ⟨goal, given, named, faithful.agrees grammar.root _ _ (faithful.part given) ?_⟩
    rw [Option.getD_some, named]
    exact builds.lookup?_goal

/-- Commands to a door, with a definition that only renames another, names inside expressions and a
phrase that stands in two places. -/
def doorDeclaration : Declaration where
  definitions := [
    ⟨"GOAL", .sequence [.rule "ACT", .optional (.literals ["the"]),
      .named "THING" (.choice [.sequence [.literals ["the"], .literals ["gate"]],
        .literals ["door"]])]⟩,
    ⟨"ACT", .rule "VERB"⟩,
    ⟨"VERB", .named "WORD" (.choice [.literals ["open"], .literals ["shut"]])⟩]
  case := .sensitive

/-- The root of the grammar for doors matches a command, since the expression of its start symbol
means it. -/
theorem door_command_is_matched : ∃ grammar, doorDeclaration.build = .ok grammar ∧
    doorDeclaration.Unambiguous ∧
    Matches grammar .unlimited (Token.ofWords ["open", "the", "door"]) grammar.root 0
      [⟨0, 1⟩, ⟨1, 2⟩, ⟨2, 3⟩] 3 := by
  obtain ⟨grammar, built, -⟩ : ∃ grammar, doorDeclaration.build = .ok grammar ∧
      grammar.size = 12 := exists_built (by decide +kernel)
  have unambiguous : doorDeclaration.Unambiguous := by decide +kernel
  obtain ⟨-, goal, given, named, agrees⟩ := matches_iff_means built unambiguous
  refine ⟨grammar, built, unambiguous, (agrees ..).2 ?_⟩
  have word : ∀ member start, start < 3 →
      (Kind.literals (.ofMembers .sensitive [member])).Covers .sensitive
        (Token.ofWords ["open", "the", "door"]) start (start + 1) →
      Expr.Means doorDeclaration.definitions .sensitive .unlimited
        (Token.ofWords ["open", "the", "door"]) (.literals [member]) start [⟨start, start + 1⟩]
        (start + 1) := fun member start inside covers => .literals (le_refl _) inside covers
  have first := word "open" 0 (by decide) ⟨"open", by decide +kernel⟩
  have second := word "the" 1 (by decide) ⟨"the", by decide +kernel⟩
  have third := word "door" 2 (by decide) ⟨"door", by decide +kernel⟩
  have act : ⟨"ACT", .rule "VERB"⟩ ∈ doorDeclaration.definitions := by simp [doorDeclaration]
  have verb : ⟨"VERB", .named "WORD" (.choice [.literals ["open"], .literals ["shut"]])⟩ ∈
      doorDeclaration.definitions := by simp [doorDeclaration]
  simp only [doorDeclaration, List.mem_cons, List.not_mem_nil, or_false] at given
  rcases given with rfl | rfl | rfl
  · exact .sequence (.cons (.rule act (.rule verb (.named (.choice List.mem_cons_self first))))
      (.cons (.optional second)
        (.cons (.named (.choice (List.mem_cons_of_mem _ List.mem_cons_self) third)) (.nil _))))
  · exact absurd named (by decide)
  · exact absurd named (by decide)

end Declaration

end Utterance

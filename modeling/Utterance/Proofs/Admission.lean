import Mathlib.Data.List.Flatten
import Utterance.Proofs.Ledger

/-!
# Which declarations are built

A declaration is built exactly when it is well formed (`Declaration.WellFormed`). One half
is read off the ledger of a build that ended well. For the other half a state is ready when what was
asked and what is still to be asked are together the requests of the definitions under way
(`Lowering.Ready`); the next request then clashes with nothing in the ledger, and an expression that
is admissible is made. Definitions are followed to any depth, because without a circle the
definitions under way are distinct.
-/
namespace Utterance

namespace Lowering

variable {definitions : List Definition} {case : CasePolicy} {rule : String}
  {resolve : String → Step} {path : List String} {start last : Lowering}
  {earlier pending : List Request}

/-- Whether a state is ready for requests that are still to be made by the definitions on a path,
which are under way: together with those that were made before they are the requests of these
definitions, and none of these definitions is finished. -/
structure Ready (definitions : List Definition) (case : CasePolicy) (path : List String)
    (state : Lowering) (earlier pending : List Request) : Prop where
  /-- The state answers the earlier requests. -/
  tracks : Tracks definitions case state earlier
  /-- Earlier and pending requests are those of the definitions under way. -/
  whole : (earlier ++ pending).Perm (path.flatMap (requestsOf definitions case))
  /-- The definitions under way are given. -/
  inside : ∀ name ∈ path, name ∈ definitions.map (·.name)
  /-- No definition is finished and under way, or under way twice. -/
  apart : (path ++ state.bound.map (·.1)).Nodup

/-- What a declaration must be for its definitions to be made. -/
structure Makeable (definitions : List Definition) (case : CasePolicy) : Prop where
  /-- Names are given once. -/
  distinct : (definitions.map (·.name)).Nodup
  /-- Names that are used are given. -/
  references : ∀ definition ∈ definitions, ∀ used ∈ definition.expr.references,
    used ∈ definitions.map (·.name)
  /-- No definition uses itself. -/
  acyclic : Declaration.Acyclic definitions
  /-- Every part of every definition can be made. -/
  admissible : ∀ definition ∈ definitions, definition.expr.Admissible case
  /-- No two requests clash. -/
  apart : (definitions.flatMap (·.requests case)).Pairwise fun left right => ¬ left.Clashes right

/-- A request that clashes with nothing in the ledger is answered. -/
theorem Records.exists_intern {ledger : List Request} {given : Option String} {kind : Kind}
    (records : Records case start ledger)
    (clear : ∀ other ∈ ledger,
      ¬ other.Clashes ((kind.shape (elementName start.elements)).request given)) :
    ∃ id last, Lowering.intern definitions rule given kind start = .ok (id, last) := by
  unfold Lowering.intern
  simp only
  split
  · rename_i existing found
    obtain ⟨element, stands, named⟩ := exists_of_elementIndex? found
    obtain ⟨other, listed, same, explicit, -⟩ := records.asked element (List.mem_of_getElem? stands)
    have separate := clear other listed
    rw [Kind.derivedName_eq] at named
    obtain ⟨derived, free⟩ : element.explicit = false ∧ given = none := by
      simpa [Request.Clashes, Shape.request, same, named, explicit] using separate
    exact ⟨existing, start, by simp [stands, derived, free]⟩
  · exact ⟨_, _, rfl⟩

namespace Ready

/-- The next request clashes with nothing in the ledger. -/
theorem clear {request : Request}
    (ready : Ready definitions case path start earlier (request :: pending))
    (makeable : Makeable definitions case) :
    ∀ other ∈ earlier ++ (start.bound.map (·.1)).flatMap (requestsOf definitions case),
      ¬ other.Clashes request := by
  have symmetric : ∀ {left right : Request}, ¬ left.Clashes right → ¬ right.Clashes left :=
    fun distinct clashes => distinct clashes.symm
  have known : ∀ name ∈ path ++ start.bound.map (·.1), name ∈ definitions.map (·.name) := by
    intro name member
    rcases List.mem_append.1 member with early | noted
    · exact ready.inside name early
    · exact ready.tracks.known noted
  -- The names under way and the names that are finished are some of the names that are given.
  obtain ⟨names, order, sub⟩ := ready.apart.subperm known
  have separate := makeable.apart
  rw [flatMap_requests makeable.distinct] at separate
  have together := ((order.flatMap_right (requestsOf definitions case)).pairwise_iff symmetric).1
    (separate.sublist (sub.flatMap _))
  rw [List.flatMap_append] at together
  have split := List.pairwise_append.1
    (((ready.whole.append_right _).pairwise_iff symmetric).2 together)
  intro other member
  rcases List.mem_append.1 member with early | finished
  · exact (List.pairwise_append.1 split.1).2.2 other early request List.mem_cons_self
  · exact symmetric (split.2.2 request (by simp) other finished)

/-- A state that is ready answers the next request, and finishes no definition by it. -/
theorem exists_intern {given : Option String} {shape : Shape}
    (ready : Ready definitions case path start earlier (shape.request given :: pending))
    (makeable : Makeable definitions case) (rule : String) (kind : Kind)
    (shaped : kind.shape (elementName start.elements) = shape) :
    ∃ id last, intern definitions rule given kind start = .ok (id, last) ∧
      (path ++ last.bound.map (·.1)).Nodup := by
  have clear := ready.clear makeable
  rw [← shaped] at clear
  obtain ⟨id, last, success⟩ := ready.tracks.records.exists_intern clear
  refine ⟨id, last, success, ?_⟩
  rcases intern_cases success with ⟨-, rfl, -⟩ | ⟨-, -, rfl⟩
  · exact ready.apart
  · exact ready.apart

/-- After the next requests are answered, the state is ready for what remains. -/
theorem advance {requests : List Request}
    (ready : Ready definitions case path start earlier (requests ++ pending))
    (tracks : Tracks definitions case last (earlier ++ requests))
    (apart : (path ++ last.bound.map (·.1)).Nodup) :
    Ready definitions case path last (earlier ++ requests) pending :=
  ⟨tracks, by simpa only [List.append_assoc] using ready.whole, ready.inside, apart⟩

end Ready

/-- A step that makes an element whenever the state is ready for its requests, and finishes none of
the definitions under way. -/
abbrev Proceeds (definitions : List Definition) (case : CasePolicy) (path : List String)
    (requests : List Request) (step : Step) : Prop :=
  ∀ start earlier pending, Ready definitions case path start earlier (requests ++ pending) →
    ∃ id last, step start = .ok (id, last) ∧ (path ++ last.bound.map (·.1)).Nodup

/-- A step that makes elements whenever the state is ready for their requests, and finishes none of
the definitions under way. -/
abbrev ProceedsAll (definitions : List Definition) (case : CasePolicy) (path : List String)
    (requests : List Request) (steps : Steps) : Prop :=
  ∀ start earlier pending, Ready definitions case path start earlier (requests ++ pending) →
    ∃ ids last, steps start = .ok (ids, last) ∧ (path ++ last.bound.map (·.1)).Nodup

/-- An element around another one is made, if that one is. -/
theorem around_proceeds {given : Option String} {kind : Nat → Kind} {requests : List Request}
    {name : String} {inner : Step} (makeable : Makeable definitions case)
    (shape : String → Shape) (shaped : ∀ nameOf id, (kind id).shape nameOf = shape (nameOf id))
    (serves : Serves definitions case requests name inner)
    (proceeds : Proceeds definitions case path requests inner) :
    Proceeds definitions case path (requests ++ [(shape name).request given])
      (around definitions rule given kind inner) := by
  intro start earlier pending ready
  rw [List.append_assoc] at ready
  obtain ⟨child, middle, success, kept⟩ := proceeds start earlier _ ready
  obtain ⟨tracks, named⟩ := serves start child middle earlier ready.tracks success
  have made : (kind child).shape (elementName middle.elements) = shape name := by
    rw [shaped, named]
  obtain ⟨id, last, finished, kept⟩ :=
    (ready.advance tracks kept).exists_intern makeable rule (kind child) made
  exact ⟨id, last, by rw [around, success]; exact finished, kept⟩

/-- An element around children is made, if there are children and they are made. -/
theorem aroundAll_proceeds {given : Option String} {kind : List Nat → Kind}
    {requests : List Request} {names : List String} {children : List Expr} {inner : Steps}
    (makeable : Makeable definitions case) (shape : List String → Shape)
    (shaped : ∀ nameOf ids, (kind ids).shape nameOf = shape (ids.map nameOf))
    (some : children ≠ []) (serves : ServesAll definitions case requests names inner)
    (proceeds : ProceedsAll definitions case path requests inner) :
    Proceeds definitions case path (requests ++ [(shape names).request given])
      (aroundAll definitions rule given kind children inner) := by
  intro start earlier pending ready
  rw [List.append_assoc] at ready
  obtain ⟨ids, middle, success, kept⟩ := proceeds start earlier _ ready
  obtain ⟨tracks, named⟩ := serves start ids middle earlier ready.tracks success
  have made : (kind ids).shape (elementName middle.elements) = shape names := by
    rw [shaped, named]
  obtain ⟨id, last, finished, kept⟩ :=
    (ready.advance tracks kept).exists_intern makeable rule (kind ids) made
  refine ⟨id, last, ?_, kept⟩
  rw [aroundAll, if_neg (by simpa using some), success]
  exact finished

mutual

/-- The element of an expression is made, if every part of it can be made and the definitions it
uses are. -/
theorem lower_proceeds (makeable : Makeable definitions case)
    (sound : ∀ target, Sound case none (resolve target))
    (serves : ∀ target, Serves definitions case [] target (resolve target)) :
    ∀ (expr : Expr) (given : Option String),
      (∀ target ∈ expr.references, Proceeds definitions case path [] (resolve target)) →
      expr.Admissible case →
      Proceeds definitions case path (expr.requests case given)
        (lower definitions case resolve rule expr given)
  | .named name inner, none, resolved, admissible => by
    rw [lower, Expr.requests]
    exact lower_proceeds makeable sound serves inner (some name) resolved admissible
  | .named name inner, some outer, resolved, admissible => by
    rw [lower, Expr.requests]
    exact around_proceeds makeable (fun name => .choice [name]) (fun _ _ => rfl)
      (lower_serves sound serves inner (some name))
      (lower_proceeds makeable sound serves inner (some name) resolved admissible)
  | .rule target, none, resolved, admissible => by
    rw [lower, Expr.requests]
    exact resolved target (List.mem_singleton_self target)
  | .rule target, some outer, resolved, admissible => by
    rw [lower, Expr.requests]
    exact around_proceeds makeable (fun name => .choice [name]) (fun _ _ => rfl) (serves target)
      (resolved target (List.mem_singleton_self target))
  | .literals members, given, resolved, admissible => by
    intro start earlier pending ready
    have filled := (LiteralSet.isEmpty_ofMembers_eq_false_iff case members).2 admissible
    rw [Expr.requests] at ready
    simp only [lower, filled, Bool.false_eq_true, if_false]
    exact ready.exists_intern makeable rule (.literals _) rfl
  | .pattern source, given, resolved, admissible => by
    intro start earlier pending ready
    obtain ⟨matcher, compiled⟩ := admissible
    rw [Expr.requests] at ready
    simp only [lower, compiled]
    exact ready.exists_intern makeable rule (.pattern matcher)
      (congrArg Shape.pattern (Pattern.source_of_compile compiled))
  | .sequence children, given, resolved, admissible => by
    rw [lower, Expr.requests]
    exact aroundAll_proceeds makeable .sequence (fun _ _ => rfl) admissible.1
      (lowerAll_serves sound serves children)
      (lowerAll_proceeds makeable sound serves children resolved admissible.2)
  | .choice children, given, resolved, admissible => by
    rw [lower, Expr.requests]
    exact aroundAll_proceeds makeable .choice (fun _ _ => rfl) admissible.1
      (lowerAll_serves sound serves children)
      (lowerAll_proceeds makeable sound serves children resolved admissible.2)
  | .optional inner, given, resolved, admissible => by
    rw [lower, Expr.requests]
    exact around_proceeds makeable .optional (fun _ _ => rfl) (lower_serves sound serves inner none)
      (lower_proceeds makeable sound serves inner none resolved admissible)
  | .repetition inner min max, given, resolved, admissible => by
    simp only [lower, boundsFault?_eq_none_iff.2 admissible.1, Expr.requests]
    exact around_proceeds makeable (fun name => .repetition name min max) (fun _ _ => rfl)
      (lower_serves sound serves inner none)
      (lower_proceeds makeable sound serves inner none resolved admissible.2)

/-- The elements of expressions are made one after another. -/
theorem lowerAll_proceeds (makeable : Makeable definitions case)
    (sound : ∀ target, Sound case none (resolve target))
    (serves : ∀ target, Serves definitions case [] target (resolve target)) :
    ∀ (exprs : List Expr),
      (∀ target ∈ Expr.referencesOfAll exprs, Proceeds definitions case path [] (resolve target)) →
      Expr.AdmissibleAll case exprs →
      ProceedsAll definitions case path (Expr.requestsOfAll case exprs)
        (lowerAll definitions case resolve rule exprs)
  | [], resolved, admissible => fun start _ _ ready => ⟨[], start, rfl, ready.apart⟩
  | child :: rest, resolved, admissible => by
    intro start earlier pending ready
    rw [lowerAll]
    rw [Expr.requestsOfAll, List.append_assoc] at ready
    rw [Expr.referencesOfAll, List.forall_mem_append] at resolved
    obtain ⟨id, middle, success, kept⟩ := lower_proceeds makeable sound serves child none
      resolved.1 admissible.1 start earlier _ ready
    obtain ⟨tracks, -⟩ :=
      lower_serves sound serves child none start id middle earlier ready.tracks success
    obtain ⟨ids, last, finished, kept⟩ := lowerAll_proceeds makeable sound serves rest resolved.2
      admissible.2 middle _ _ (ready.advance tracks kept)
    exact ⟨id :: ids, last, by rw [success]; simp [bind, Except.bind, finished], kept⟩

end

/-- The element of a definition is made while others are under way, each of which uses it. -/
theorem lowerDefinition_proceeds (makeable : Makeable definitions case) {depth : Nat}
    {name : String} (known : name ∈ definitions.map (·.name))
    (room : definitions.length < depth + path.length)
    (reached : ∀ user ∈ path, Relation.TransGen (Declaration.Refers definitions) user name) :
    Proceeds definitions case path [] (lowerDefinition definitions case depth name) := by
  induction depth generalizing path name with
  | zero =>
    intro start earlier pending ready
    have short := Declaration.length_le_of_nodup ready.apart.of_append_left ready.inside
    omega
  | succ depth hypothesis =>
    intro start earlier pending ready
    rw [lowerDefinition]
    cases noted : start.bound.lookup name with
    | some id => exact ⟨id, start, rfl, ready.apart⟩
    | none =>
      obtain ⟨definition, found⟩ := Declaration.exists_find?_eq_some makeable.distinct known
      obtain ⟨member, rfl⟩ := (Declaration.find?_eq_some_iff makeable.distinct _ _).1 found
      have fresh : definition.name ∉ path ++ start.bound.map (·.1) := by
        intro inside
        rcases List.mem_append.1 inside with user | finished
        · exact makeable.acyclic _ (reached _ user)
        · obtain ⟨entry, listed, same⟩ := List.mem_map.1 finished
          simpa [same] using List.lookup_eq_none_iff.1 noted entry listed
      have begun : Ready definitions case (definition.name :: path) start earlier
          (definition.requests case ++ pending) := by
        refine ⟨ready.tracks, ?_, ?_, List.nodup_cons.2 ⟨fresh, ready.apart⟩⟩
        · rw [List.flatMap_cons, requestsOf, found]
          exact List.perm_append_comm_assoc _ _ _ |>.trans (ready.whole.append_left _)
        · exact List.forall_mem_cons.2 ⟨known, ready.inside⟩
      have resolved : ∀ target ∈ definition.expr.references,
          Proceeds definitions case (definition.name :: path) []
            (lowerDefinition definitions case depth target) := by
        intro target uses
        have refers : Declaration.Refers definitions definition.name target :=
          ⟨definition, member, rfl, uses⟩
        refine hypothesis (makeable.references definition member target uses) ?_ ?_
        · rw [List.length_cons]
          omega
        · exact List.forall_mem_cons.2
            ⟨.single refers, fun user way => (reached user way).tail refers⟩
      obtain ⟨id, last, success, kept⟩ := lower_proceeds makeable (lowerDefinition_makes depth)
        (lowerDefinition_serves depth) definition.expr (some definition.name) resolved
        (makeable.admissible definition member) start earlier pending begun
      refine ⟨id, _, by simp only [found]; rw [success]; rfl, ?_⟩
      rw [List.map_cons]
      exact List.nodup_middle.2 kept

/-- The elements of definitions are made in order. -/
theorem lowerDefinitions_succeeds (makeable : Makeable definitions case)
    (remaining : List Definition) (given : remaining ⊆ definitions)
    (ready : Ready definitions case [] start [] []) :
    ∃ last, lowerDefinitions definitions case remaining start = .ok last := by
  induction remaining generalizing start with
  | nil => exact ⟨start, rfl⟩
  | cons definition rest hypothesis =>
    obtain ⟨member, others⟩ := List.cons_subset.1 given
    obtain ⟨id, middle, success, kept⟩ := lowerDefinition_proceeds makeable
      (List.mem_map_of_mem member) (Nat.lt_succ_self _) (by simp) start [] [] ready
    obtain ⟨tracks, -⟩ := lowerDefinition_serves _ _ start id middle [] ready.tracks success
    obtain ⟨last, finished⟩ := hypothesis others (ready.advance tracks kept)
    exact ⟨last, by rw [lowerDefinitions, success]; exact finished⟩

end Lowering

namespace Declaration

variable {definitions : List Definition}

/-- No definition repeats a name exactly when the names are distinct, also from those before. -/
theorem firstRepeated?_eq_none_iff (earlier : List String) :
    firstRepeated? earlier definitions = none ↔
      (definitions.map (·.name)).Nodup ∧ ∀ name ∈ definitions.map (·.name), name ∉ earlier := by
  induction definitions generalizing earlier with
  | nil => simp [firstRepeated?]
  | cons definition rest hypothesis =>
    rw [firstRepeated?, List.map_cons, List.nodup_cons, List.forall_mem_cons]
    split
    · rename_i repeated
      have first : definition.name ∈ earlier := by simpa using repeated
      simp [first]
    · rename_i fresh
      have first : definition.name ∉ earlier := by simpa using fresh
      rw [hypothesis]
      constructor
      · rintro ⟨distinct, others⟩
        refine ⟨⟨fun member => ?_, distinct⟩, first, fun name member inside => ?_⟩
        · exact others _ member List.mem_cons_self
        · exact others name member (List.mem_cons_of_mem _ inside)
      · rintro ⟨⟨outside, distinct⟩, -, others⟩
        refine ⟨distinct, fun name member inside => ?_⟩
        rcases List.mem_cons.1 inside with rfl | inside
        · exact outside member
        · exact others name member inside

/-- The check of names passes exactly when names are given once and the start symbol is among them.
-/
theorem checkNames_eq_ok_iff {goal : String} :
    checkNames definitions goal = .ok () ↔
      (definitions.map (·.name)).Nodup ∧ goal ∈ definitions.map (·.name) := by
  have distinct : firstRepeated? [] definitions = none ↔ (definitions.map (·.name)).Nodup := by
    simp [firstRepeated?_eq_none_iff]
  rw [checkNames, ← distinct]
  cases firstRepeated? [] definitions with
  | some definition => simp
  | none => by_cases goal ∈ definitions.map (·.name) <;> simp_all

/-- The check of references passes exactly when every name used is given. -/
theorem checkReferences_eq_ok_iff :
    checkReferences definitions = .ok () ↔ ∀ definition ∈ definitions,
      ∀ used ∈ definition.expr.references, used ∈ definitions.map (·.name) := by
  have undefined : firstUndefined? definitions = none ↔ ∀ definition ∈ definitions,
      ∀ used ∈ definition.expr.references, used ∈ definitions.map (·.name) := by
    simp [firstUndefined?, List.findSome?_eq_none_iff]
  rw [checkReferences, ← undefined]
  cases firstUndefined? definitions with
  | none => simp
  | some missing => simp

/-- Actions can be attached exactly when each names an element. -/
theorem attach_succeeds_iff {elements : List Element} (actions : List (String × Action))
    (attached : List (Nat × Action)) :
    (∃ result, attach elements actions attached = .ok result) ↔
      ∀ entry ∈ actions, ∃ element ∈ elements, element.name = entry.1 := by
  induction actions generalizing attached with
  | nil => simp [attach]
  | cons entry rest hypothesis =>
    rw [List.forall_mem_cons, attach]
    cases found : elementIndex? elements entry.1 with
    | none =>
      have absent := elementIndex?_eq_none_iff.1 found
      simp_all
    | some id =>
      obtain ⟨element, stands, named⟩ := exists_of_elementIndex? found
      simp only [hypothesis]
      exact (and_iff_right ⟨element, List.mem_of_getElem? stands, named⟩).symm

/-- The steps of a build that ends well. -/
structure Builds (declaration : Declaration) (state : Lowering) (grammar : Grammar) : Prop where
  /-- Names are given once. -/
  distinct : (declaration.definitions.map (·.name)).Nodup
  /-- The start symbol is given. -/
  goal : declaration.goal ∈ declaration.definitions.map (·.name)
  /-- Names that are used are given. -/
  references : ∀ definition ∈ declaration.definitions, ∀ used ∈ definition.expr.references,
    used ∈ declaration.definitions.map (·.name)
  /-- No definition uses itself. -/
  acyclic : Acyclic declaration.definitions
  /-- The definitions are made. -/
  made : Lowering.lowerDefinitions declaration.definitions declaration.case
    declaration.definitions {} = .ok state
  /-- The actions are attached. -/
  attached : attach state.elements declaration.actions [] = .ok grammar.actions
  /-- The elements are those that were made. -/
  elements : grammar.elements = state.elements
  /-- The root is the element of the start symbol. -/
  root : grammar.root = (state.bound.lookup declaration.goal).getD 0
  /-- Text is compared as declared. -/
  case : grammar.case = declaration.case

/-- A grammar is built when its definitions pass the checks and are made, and actions attached. -/
theorem build_eq_ok_iff {declaration : Declaration} {grammar : Grammar} :
    declaration.build = .ok grammar ↔ ∃ state, Builds declaration state grammar := by
  constructor
  · intro built
    unfold build at built
    obtain ⟨⟨⟩, names, built⟩ := ok_of_bind built
    obtain ⟨⟨⟩, references, built⟩ := ok_of_bind built
    obtain ⟨⟨⟩, cycles, built⟩ := ok_of_bind built
    obtain ⟨state, made, built⟩ := ok_of_bind built
    obtain ⟨actions, attached, built⟩ := ok_of_bind built
    obtain rfl := Except.ok.inj built
    obtain ⟨distinct, goal⟩ := checkNames_eq_ok_iff.1 names
    have bound := checkReferences_eq_ok_iff.1 references
    exact ⟨state, distinct, goal, bound, (checkCycles_eq_ok_iff distinct bound).1 cycles, made,
      attached, rfl, rfl, rfl⟩
  · rintro ⟨state, builds⟩
    have names := checkNames_eq_ok_iff.2 ⟨builds.distinct, builds.goal⟩
    have references := checkReferences_eq_ok_iff.2 builds.references
    have cycles := (checkCycles_eq_ok_iff builds.distinct builds.references).2 builds.acyclic
    unfold build
    simp only [names, references, cycles, builds.made, builds.attached, bind, Except.bind]
    obtain ⟨elements, root, actions, case⟩ := grammar
    simp only [builds.elements.symm, builds.root.symm, builds.case.symm]

/-- A build that ends well answers exactly the requests of its declaration, and finishes every
definition. -/
theorem Builds.records {declaration : Declaration} {state : Lowering} {grammar : Grammar}
    (builds : Builds declaration state grammar) :
    Lowering.Records declaration.case state declaration.requests ∧
      (∀ definition ∈ declaration.definitions, definition.name ∈ state.bound.map (·.1)) ∧
      ∀ definition ∈ declaration.definitions, definition.expr.Admissible declaration.case :=
  Lowering.lowerDefinitions_records builds.distinct builds.made

/-- Whether a declaration is well formed: its definitions can be made, the start symbol is given,
and every action names an element that is asked for. -/
structure WellFormed (declaration : Declaration) : Prop
    extends Lowering.Makeable declaration.definitions declaration.case where
  /-- The start symbol is given. -/
  goal : declaration.goal ∈ declaration.definitions.map (·.name)
  /-- Every action names an element. -/
  actions : ∀ entry ∈ declaration.actions, ∃ request ∈ declaration.requests, request.name = entry.1

/-- A grammar is built from a declaration exactly when the declaration is well formed. -/
theorem build_succeeds_iff (declaration : Declaration) :
    (∃ grammar, declaration.build = .ok grammar) ↔ declaration.WellFormed := by
  constructor
  · rintro ⟨grammar, built⟩
    obtain ⟨state, builds⟩ := build_eq_ok_iff.1 built
    obtain ⟨records, -, admissible⟩ := builds.records
    refine ⟨⟨builds.distinct, builds.references, builds.acyclic, admissible, records.apart⟩,
      builds.goal, fun entry member => ?_⟩
    rw [← records.exists_name_iff]
    exact (attach_succeeds_iff _ _).1 ⟨_, builds.attached⟩ entry member
  · intro formed
    have ready : Lowering.Ready declaration.definitions declaration.case [] {} [] [] :=
      ⟨⟨.nil _, by simp⟩, by simp, by simp, by simp⟩
    obtain ⟨state, made⟩ := Lowering.lowerDefinitions_succeeds formed.toMakeable
      declaration.definitions (List.Subset.refl _) ready
    obtain ⟨records, -⟩ := Lowering.lowerDefinitions_records formed.distinct made
    have targets : ∀ entry ∈ declaration.actions, ∃ element ∈ state.elements,
        element.name = entry.1 := fun entry member =>
      (records.exists_name_iff entry.1).2 (formed.actions entry member)
    obtain ⟨actions, attached⟩ := (attach_succeeds_iff declaration.actions []).2 targets
    let grammar : Grammar :=
      { elements := state.elements
        root := (state.bound.lookup declaration.goal).getD 0
        actions
        case := declaration.case }
    exact ⟨grammar, build_eq_ok_iff.2 ⟨state, formed.distinct, formed.goal, formed.references,
      formed.acyclic, made, attached, rfl, rfl, rfl⟩⟩

end Declaration

end Utterance

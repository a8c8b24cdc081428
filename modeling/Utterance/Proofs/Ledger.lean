import Mathlib.Data.List.Perm.Basic
import Mathlib.Data.List.Nodup
import Utterance.Proofs.Cycles
import Utterance.Proofs.Requests

/-!
# The requests that building answers

A ledger lists the requests that were answered so far. It tells what the state of a build holds
(`Lowering.Records`): each request has its element, each element was asked for with its shape, and
no two requests clash. Making the element of an expression adds the requests of the expression to
the ledger, and those of the definitions that were finished on the way (`Lowering.lower_serves`);
the element has the name that can be read off the expression. So the ledger of a build that ends
well is that of its declaration, in some order (`lowerDefinitions_records`).
-/
namespace Utterance

section

variable {elements : List Element} {name : String} {id : Nat}

/-- Where an element stands, its name is found. -/
theorem elementName_of_getElem? {element : Element} (found : elements[id]? = some element) :
    elementName elements id = element.name := by
  simp [elementName, found]

/-- The name of an element stays when others are added. -/
theorem elementName_append (more : List Element) (inside : id < elements.length) :
    elementName (elements ++ more) id = elementName elements id := by
  simp only [elementName, List.getElem?_append_left inside]

/-- A name is not found when no element has it. -/
theorem elementIndex?_eq_none_iff :
    elementIndex? elements name = none ↔ ∀ element ∈ elements, element.name ≠ name := by
  simp [elementIndex?, List.findIdx?_eq_none_iff]

/-- The place that is found for a name holds an element that has it. -/
theorem exists_of_elementIndex? (found : elementIndex? elements name = some id) :
    ∃ element, elements[id]? = some element ∧ element.name = name := by
  obtain ⟨inside, same, -⟩ := List.findIdx?_eq_some_iff_getElem.1 found
  exact ⟨elements[id], List.getElem?_eq_getElem inside, by simpa using same⟩

/-- Elements with one name are one, where names are distinct. -/
theorem eq_of_name_eq (distinct : (elements.map (·.name)).Nodup) {left right : Nat}
    {first second : Element} (here : elements[left]? = some first)
    (there : elements[right]? = some second) (same : first.name = second.name) : left = right := by
  have names : (elements.map (·.name))[left]? = (elements.map (·.name))[right]? := by
    simp [here, there, same]
  have inside := (List.getElem?_eq_some_iff.1 here).1
  exact (List.getElem?_inj (by simpa using inside) distinct).1 names

/-- Where names are distinct, an element is found under its name. -/
theorem elementIndex?_of_getElem? (distinct : (elements.map (·.name)).Nodup) {element : Element}
    (found : elements[id]? = some element) : elementIndex? elements element.name = some id := by
  cases search : elementIndex? elements element.name with
  | none =>
    exact absurd rfl (elementIndex?_eq_none_iff.1 search element (List.mem_of_getElem? found))
  | some other =>
    obtain ⟨holder, there, same⟩ := exists_of_elementIndex? search
    rw [eq_of_name_eq distinct there found same]

end

/-- A pattern keeps the text it was compiled from. -/
theorem Pattern.source_of_compile {case : CasePolicy} {source : String} {matcher : Pattern}
    (compiled : Pattern.compile case source = .ok matcher) : matcher.source = source := by
  unfold Pattern.compile at compiled
  obtain ⟨-, -, compiled⟩ := ok_of_bind compiled
  split at compiled
  · exact absurd compiled (by simp)
  · split at compiled
    · exact absurd compiled (by simp)
    · obtain rfl := Except.ok.inj compiled
      rfl

namespace Lowering

/-- Whether a ledger of requests tells what a state holds. -/
structure Records (case : CasePolicy) (state : Lowering) (ledger : List Request) : Prop where
  /-- The elements are grounded. -/
  grounded : Grounded case state.elements
  /-- No two elements have one name. -/
  distinct : (state.elements.map (·.name)).Nodup
  /-- What is noted for a definition is the element with its name. -/
  noted : ∀ entry ∈ state.bound, state.Named entry.2 entry.1
  /-- Each request has its element. -/
  answered : ∀ request ∈ ledger, ∃ element ∈ state.elements,
    element.name = request.name ∧ element.explicit = request.explicit
  /-- Each element was asked for with its shape. -/
  asked : ∀ element ∈ state.elements, ∃ request ∈ ledger, request.name = element.name ∧
    request.explicit = element.explicit ∧
    request.shape = element.kind.shape (elementName state.elements)
  /-- No two requests clash. -/
  apart : ledger.Pairwise fun left right => ¬ left.Clashes right

/-- Bounds have no fault when they are in order and allow an occurrence. -/
theorem boundsFault?_eq_none_iff {min : Nat} {max : Option Nat} :
    boundsFault? min max = none ↔ ∀ most, max = some most → 1 ≤ most ∧ min ≤ most := by
  cases max with
  | none => simp [boundsFault?]
  | some most =>
    simp only [boundsFault?, Option.some.injEq, forall_eq']
    split
    · simp only [reduceCtorEq, false_iff]
      omega
    · split
      · simp only [reduceCtorEq, false_iff]
        omega
      · simp only [true_iff]
        omega

/-- What adding an element does: it gives one that has the derived name already, or adds one under a
new name. -/
theorem intern_cases {definitions : List Definition} {rule : String} {given : Option String}
    {kind : Kind} {start last : Lowering} {id : Nat}
    (success : intern definitions rule given kind start = .ok (id, last)) :
    (given = none ∧ last = start ∧ ∃ element, start.elements[id]? = some element ∧
      element.name = kind.derivedName (elementName start.elements) ∧ element.explicit = false) ∨
    ((∀ element ∈ start.elements,
        element.name ≠ given.getD (kind.derivedName (elementName start.elements))) ∧
      id = start.elements.length ∧
      last = { start with elements := start.elements ++
        [⟨given.getD (kind.derivedName (elementName start.elements)), given.isSome, kind,
          kind.nullable (elementNullable start.elements)⟩] }) := by
  unfold intern at success
  simp only at success
  split at success
  · rename_i existing found
    split at success
    · rename_i shared
      obtain ⟨rfl, rfl⟩ := Prod.mk.inj (Except.ok.inj success)
      obtain ⟨element, stands, named⟩ := exists_of_elementIndex? found
      rw [stands] at shared
      obtain ⟨free, derived⟩ : given = none ∧ element.explicit = false := by simpa using shared
      rw [free, Option.getD_none] at named
      exact Or.inl ⟨free, rfl, element, stands, named, derived⟩
    · exact absurd success (by simp)
  · rename_i fresh
    obtain ⟨rfl, rfl⟩ := Prod.mk.inj (Except.ok.inj success)
    exact Or.inr ⟨elementIndex?_eq_none_iff.1 fresh, rfl, rfl⟩

namespace Records

variable {case : CasePolicy} {definitions : List Definition} {rule : String} {ledger : List Request}
  {start last state : Lowering} {id : Nat}

/-- Nothing is recorded at the start. -/
theorem nil (case : CasePolicy) : Records case {} [] :=
  ⟨.nil case, by simp, by simp, by simp, by simp, by simp⟩

/-- The order of the ledger does not matter. -/
theorem perm (records : Records case state ledger) {other : List Request}
    (perm : ledger.Perm other) : Records case state other where
  grounded := records.grounded
  distinct := records.distinct
  noted := records.noted
  answered := fun request member => records.answered request (perm.mem_iff.2 member)
  asked := fun element member => by
    obtain ⟨request, listed, rest⟩ := records.asked element member
    exact ⟨request, perm.mem_iff.1 listed, rest⟩
  apart := (perm.pairwise_iff fun distinct clashes => distinct clashes.symm).1 records.apart

/-- The element of a definition is noted. -/
theorem note (records : Records case state ledger) {name : String} (named : state.Named id name) :
    Records case { state with bound := (name, id) :: state.bound } ledger := by
  refine { records with noted := ?_ }
  intro entry member
  rcases List.mem_cons.1 member with rfl | member
  · exact named
  · exact records.noted entry member

/-- What is noted exists. -/
theorem bounded (records : Records case state ledger) : state.Bounded :=
  fun entry member => (records.noted entry member).lt_length

/-- The names of elements are those that were asked for. -/
theorem exists_name_iff (records : Records case state ledger) (name : String) :
    (∃ element ∈ state.elements, element.name = name) ↔
      ∃ request ∈ ledger, request.name = name := by
  constructor
  · rintro ⟨element, member, rfl⟩
    obtain ⟨request, listed, same, -⟩ := records.asked element member
    exact ⟨request, listed, same⟩
  · rintro ⟨request, listed, rfl⟩
    obtain ⟨element, member, same, -⟩ := records.answered request listed
    exact ⟨element, member, same⟩

/-- A request for a name that an element has and that does not clash with the ledger can be
answered by that element. -/
theorem share (records : Records case state ledger) {element : Element}
    (stands : element ∈ state.elements) {request : Request} (named : element.name = request.name)
    (derived : element.explicit = false) (free : request.explicit = false) :
    Records case state (ledger ++ [request]) := by
  have marks : element.explicit = request.explicit := by rw [derived, free]
  refine { records with answered := ?_, asked := ?_, apart := ?_ }
  · intro other member
    rcases List.mem_append.1 member with early | final
    · exact records.answered other early
    · rw [List.mem_singleton.1 final]
      exact ⟨element, stands, named, marks⟩
  · intro holder member
    obtain ⟨other, listed, rest⟩ := records.asked holder member
    exact ⟨other, List.mem_append_left _ listed, rest⟩
  · rw [List.pairwise_append]
    refine ⟨records.apart, List.pairwise_singleton _ _, ?_⟩
    intro other listed final member clashes
    rw [List.mem_singleton.1 member] at clashes
    obtain ⟨holder, inside, same, explicit⟩ := records.answered other listed
    have one : holder = element := by
      refine List.inj_on_of_nodup_map records.distinct inside stands ?_
      rw [same, clashes.1, named]
    rw [one, derived] at explicit
    rcases clashes.2 with given | given
    · rw [given] at explicit
      exact absurd explicit (by simp)
    · rw [free] at given
      exact absurd given (by simp)

/-- A request for a new name is answered by a new element. -/
theorem add (records : Records case state ledger) {element : Element}
    (grounded : Grounded case (state.elements ++ [element]))
    (fresh : ∀ other ∈ state.elements, other.name ≠ element.name) :
    Records case { state with elements := state.elements ++ [element] }
      (ledger ++ [⟨element.name, element.explicit,
        element.kind.shape (elementName state.elements)⟩]) := by
  have kept : ∀ (id : Nat) (holder : Element), (state.elements ++ [element])[id]? = some holder →
      holder.kind.shape (elementName (state.elements ++ [element])) =
        holder.kind.shape (elementName state.elements) := by
    intro id holder found
    have inside := (List.getElem?_eq_some_iff.1 found).1
    rw [List.length_append, List.length_singleton] at inside
    refine Kind.shape_congr _ _ _ fun child member => elementName_append _ ?_
    have below := grounded.child_lt (show kindOf? _ id = some holder.kind by simp [kindOf?, found])
      member
    omega
  refine ⟨grounded, ?_, ?_, ?_, ?_, ?_⟩
  · rw [List.map_append, List.map_singleton]
    refine List.nodup_append.2 ⟨records.distinct, by simp, ?_⟩
    intro name listed other final same
    obtain ⟨holder, inside, rfl⟩ := List.mem_map.1 listed
    exact fresh holder inside (same.trans (List.mem_singleton.1 final))
  · intro entry member
    obtain ⟨holder, found, rest⟩ := records.noted entry member
    exact ⟨holder, (List.getElem?_append_left (records.bounded entry member)).trans found, rest⟩
  · intro request member
    rcases List.mem_append.1 member with early | final
    · obtain ⟨holder, inside, rest⟩ := records.answered request early
      exact ⟨holder, List.mem_append_left _ inside, rest⟩
    · rw [List.mem_singleton.1 final]
      exact ⟨element, by simp, rfl, rfl⟩
  · intro holder member
    obtain ⟨id, found⟩ := List.mem_iff_getElem?.1 member
    rw [kept id holder found]
    rcases List.mem_append.1 member with early | final
    · obtain ⟨request, listed, rest⟩ := records.asked holder early
      exact ⟨request, List.mem_append_left _ listed, rest⟩
    · rw [List.mem_singleton.1 final]
      exact ⟨_, List.mem_append_right _ List.mem_cons_self, rfl, rfl, rfl⟩
  · rw [List.pairwise_append]
    refine ⟨records.apart, List.pairwise_singleton _ _, ?_⟩
    intro request listed final member clashes
    rw [List.mem_singleton.1 member] at clashes
    obtain ⟨holder, inside, same, -⟩ := records.answered request listed
    exact fresh holder inside (same.trans clashes.1)

/-- Adding an element enters its request in the ledger, and gives an element that has its name. -/
theorem intern (records : Records case start ledger) {given : Option String} {kind : Kind}
    (grounded : Grounded case last.elements)
    (success : intern definitions rule given kind start = .ok (id, last)) :
    Records case last
        (ledger ++ [(kind.shape (elementName start.elements)).request given]) ∧
      last.bound = start.bound ∧
      elementName last.elements id =
        given.getD (kind.shape (elementName start.elements)).name := by
  rcases intern_cases success with ⟨rfl, rfl, element, found, named, derived⟩ | ⟨fresh, rfl, rfl⟩
  · rw [Kind.derivedName_eq] at named
    refine ⟨records.share (List.mem_of_getElem? found) named derived rfl, rfl, ?_⟩
    rw [elementName_of_getElem? found, named, Option.getD_none]
  · rw [Kind.derivedName_eq] at fresh grounded
    refine ⟨?_, rfl, ?_⟩
    · simp only [Kind.derivedName_eq]
      exact records.add grounded fresh
    · rw [elementName_of_getElem? List.getElem?_concat_length, Kind.derivedName_eq]

end Records

/-- The requests of the definition of a name. -/
def requestsOf (definitions : List Definition) (case : CasePolicy) (name : String) : List Request :=
  ((Declaration.find? definitions name).map (·.requests case)).getD []

/-- Whether a state answers some requests and those of the definitions that are finished, each of
which is admissible. -/
structure Tracks (definitions : List Definition) (case : CasePolicy) (state : Lowering)
    (requests : List Request) : Prop where
  /-- The ledger holds the requests and those of finished definitions. -/
  records : Records case state
    (requests ++ (state.bound.map (·.1)).flatMap (requestsOf definitions case))
  /-- The finished definitions are admissible. -/
  admissible : ∀ entry ∈ state.bound, ∃ definition,
    Declaration.find? definitions entry.1 = some definition ∧ definition.expr.Admissible case

/-- A step that makes an element under a name, and answers requests. -/
abbrev Serves (definitions : List Definition) (case : CasePolicy) (requests : List Request)
    (name : String) (step : Step) : Prop :=
  ∀ start id last earlier, Tracks definitions case start earlier → step start = .ok (id, last) →
    Tracks definitions case last (earlier ++ requests) ∧ elementName last.elements id = name

/-- A step that makes elements under names, and answers requests. -/
abbrev ServesAll (definitions : List Definition) (case : CasePolicy) (requests : List Request)
    (names : List String) (steps : Steps) : Prop :=
  ∀ start ids last earlier, Tracks definitions case start earlier → steps start = .ok (ids, last) →
    Tracks definitions case last (earlier ++ requests) ∧
      ids.map (elementName last.elements) = names

section

variable {case : CasePolicy} {definitions : List Definition} {rule : String}
  {resolve : String → Step}

/-- Adding an element answers its request. -/
theorem Tracks.intern {given : Option String} {kind : Kind} {shape : Shape} {start last : Lowering}
    {id : Nat} {earlier : List Request} (tracks : Tracks definitions case start earlier)
    (success : intern definitions rule given kind start = .ok (id, last))
    (grounded : Grounded case last.elements)
    (shaped : kind.shape (elementName start.elements) = shape) :
    Tracks definitions case last (earlier ++ [shape.request given]) ∧
      elementName last.elements id = given.getD shape.name := by
  obtain ⟨records, bound, named⟩ := tracks.records.intern grounded success
  rw [shaped] at records named
  refine ⟨⟨records.perm ?_, ?_⟩, named⟩
  · rw [bound, List.append_assoc, List.append_assoc]
    exact List.perm_append_comm.append_left _
  · rw [bound]
    exact tracks.admissible

/-- An element around another one answers the requests of that one, and its own. -/
theorem around_serves {inside given : Option String} {kind : Nat → Kind} {requests : List Request}
    {name : String} {inner : Step} (shape : String → Shape) (fits : Fits case kind)
    (shaped : ∀ nameOf id, (kind id).shape nameOf = shape (nameOf id))
    (sound : Sound case inside inner) (serves : Serves definitions case requests name inner) :
    Serves definitions case (requests ++ [(shape name).request given])
      (given.getD (shape name).name) (around definitions rule given kind inner) := by
  intro start id last earlier tracks success
  have grounded : Grounded case last.elements :=
    (around_makes fits sound start id last tracks.records.bounded success).grows.grounded
      tracks.records.grounded
  obtain ⟨child, middle, first, second⟩ := ok_of_around success
  obtain ⟨done, named⟩ := serves start child middle earlier tracks first
  have made : (kind child).shape (elementName middle.elements) = shape name := by
    rw [shaped, named]
  obtain ⟨finished, final⟩ := done.intern second grounded made
  rw [List.append_assoc] at finished
  exact ⟨finished, final⟩

/-- An element around children answers the requests of the children, and its own. -/
theorem aroundAll_serves {given : Option String} {kind : List Nat → Kind}
    {requests : List Request} {names : List String} {children : List Expr} {inner : Steps}
    (shape : List String → Shape) (fits : FitsAll case kind)
    (shaped : ∀ nameOf ids, (kind ids).shape nameOf = shape (ids.map nameOf))
    (sound : SoundAll case children.length inner)
    (serves : ServesAll definitions case requests names inner) :
    Serves definitions case (requests ++ [(shape names).request given])
      (given.getD (shape names).name) (aroundAll definitions rule given kind children inner) := by
  intro start id last earlier tracks success
  have grounded : Grounded case last.elements :=
    (aroundAll_makes fits sound start id last tracks.records.bounded success).grows.grounded
      tracks.records.grounded
  obtain ⟨-, ids, middle, first, second⟩ := ok_of_aroundAll success
  obtain ⟨done, named⟩ := serves start ids middle earlier tracks first
  have made : (kind ids).shape (elementName middle.elements) = shape names := by
    rw [shaped, named]
  obtain ⟨finished, final⟩ := done.intern second grounded made
  rw [List.append_assoc] at finished
  exact ⟨finished, final⟩

mutual

/-- Making the element of an expression answers its requests. The element has the name that is
given or read off the expression. -/
theorem lower_serves (sound : ∀ target, Sound case none (resolve target))
    (resolved : ∀ target, Serves definitions case [] target (resolve target)) :
    ∀ (expr : Expr) (given : Option String),
      Serves definitions case (expr.requests case given) (given.getD (expr.name case))
        (lower definitions case resolve rule expr given)
  | .named name inner, none => by
    rw [lower, Expr.requests]
    exact lower_serves sound resolved inner (some name)
  | .named name inner, some outer => by
    rw [lower, Expr.requests]
    exact around_serves (fun name => .choice [name]) (fits_single case) (fun _ _ => rfl)
      (lower_makes sound inner (some name)) (lower_serves sound resolved inner (some name))
  | .rule target, none => by
    rw [lower, Expr.requests]
    exact resolved target
  | .rule target, some outer => by
    rw [lower, Expr.requests]
    exact around_serves (fun name => .choice [name]) (fits_single case) (fun _ _ => rfl)
      (sound target) (resolved target)
  | .literals members, given => by
    intro start id last earlier tracks success
    have grounded := (lower_makes sound (.literals members) given start id last
      tracks.records.bounded success).grows.grounded tracks.records.grounded
    simp only [lower] at success
    split at success
    · exact absurd success (by simp)
    · exact tracks.intern success grounded rfl
  | .pattern source, given => by
    intro start id last earlier tracks success
    have grounded := (lower_makes sound (.pattern source) given start id last
      tracks.records.bounded success).grows.grounded tracks.records.grounded
    simp only [lower] at success
    split at success
    · exact absurd success (by simp)
    · rename_i matcher compiled
      exact tracks.intern success grounded
        (congrArg Shape.pattern (Pattern.source_of_compile compiled))
  | .sequence children, given => by
    rw [lower, Expr.requests]
    exact aroundAll_serves .sequence (fitsAll_sequence case) (fun _ _ => rfl)
      (lowerAll_makes sound children) (lowerAll_serves sound resolved children)
  | .choice children, given => by
    rw [lower, Expr.requests]
    exact aroundAll_serves .choice (fitsAll_choice case) (fun _ _ => rfl)
      (lowerAll_makes sound children) (lowerAll_serves sound resolved children)
  | .optional inner, given => by
    rw [lower, Expr.requests]
    exact around_serves .optional (fits_optional case) (fun _ _ => rfl)
      (lower_makes sound inner none) (lower_serves sound resolved inner none)
  | .repetition inner min max, given => by
    intro start id last earlier tracks success
    simp only [lower] at success
    split at success
    · exact absurd success (by simp)
    · rename_i sensible
      rw [Expr.requests]
      exact around_serves (fun name => .repetition name min max) (fits_repetition case sensible)
        (fun _ _ => rfl) (lower_makes sound inner none) (lower_serves sound resolved inner none)
        start id last earlier tracks success

/-- Making the elements of expressions one after another answers their requests. -/
theorem lowerAll_serves (sound : ∀ target, Sound case none (resolve target))
    (resolved : ∀ target, Serves definitions case [] target (resolve target)) :
    ∀ exprs : List Expr,
      ServesAll definitions case (Expr.requestsOfAll case exprs) (Expr.names case exprs)
        (lowerAll definitions case resolve rule exprs)
  | [] => by
    intro start ids last earlier tracks success
    rw [lowerAll] at success
    obtain ⟨rfl, rfl⟩ := Prod.mk.inj (Except.ok.inj success)
    exact ⟨by simpa only [Expr.requestsOfAll, List.append_nil] using tracks, rfl⟩
  | child :: rest => by
    intro start ids last earlier tracks success
    rw [lowerAll] at success
    obtain ⟨⟨id, middle⟩, first, success⟩ := ok_of_bind success
    obtain ⟨⟨others, final⟩, second, success⟩ := ok_of_bind success
    obtain ⟨rfl, rfl⟩ := Prod.mk.inj (Except.ok.inj success)
    obtain ⟨done, named⟩ :=
      lower_serves sound resolved child none start id middle earlier tracks first
    obtain ⟨finished, following⟩ :=
      lowerAll_serves sound resolved rest middle others final _ done second
    have inside :=
      (lower_makes sound child none start id middle tracks.records.bounded first).inside
    obtain ⟨more, split⟩ := (lowerAll_makes sound rest middle others final done.records.bounded
      second).grows.keeps_elements
    refine ⟨by simpa only [Expr.requestsOfAll, List.append_assoc] using finished, ?_⟩
    rw [List.map_cons, following, Expr.names, ← split, elementName_append more inside, named,
      Option.getD_none]

end

mutual

/-- An expression whose element is made is admissible. -/
theorem lower_admissible : ∀ (expr : Expr) (given : Option String) {start last : Lowering}
    {id : Nat}, lower definitions case resolve rule expr given start = .ok (id, last) →
      expr.Admissible case
  | .named name inner, none, _, _, _, success => by
    rw [lower] at success
    exact lower_admissible inner (some name) success
  | .named name inner, some outer, _, _, _, success => by
    rw [lower] at success
    obtain ⟨child, middle, first, -⟩ := ok_of_around success
    exact lower_admissible inner (some name) first
  | .rule target, given, _, _, _, _ => True.intro
  | .literals members, given, _, _, _, success => by
    simp only [lower] at success
    split at success
    · exact absurd success (by simp)
    · rename_i present
      exact (LiteralSet.isEmpty_ofMembers_eq_false_iff case members).1 (by simpa using present)
  | .pattern source, given, _, _, _, success => by
    simp only [lower] at success
    split at success
    · exact absurd success (by simp)
    · rename_i matcher compiled
      exact ⟨matcher, compiled⟩
  | .sequence children, given, _, _, _, success => by
    rw [lower] at success
    obtain ⟨some, ids, middle, first, -⟩ := ok_of_aroundAll success
    exact ⟨some, lowerAll_admissible children first⟩
  | .choice children, given, _, _, _, success => by
    rw [lower] at success
    obtain ⟨some, ids, middle, first, -⟩ := ok_of_aroundAll success
    exact ⟨some, lowerAll_admissible children first⟩
  | .optional inner, given, _, _, _, success => by
    rw [lower] at success
    obtain ⟨child, middle, first, -⟩ := ok_of_around success
    exact lower_admissible inner none first
  | .repetition inner min max, given, _, _, _, success => by
    simp only [lower] at success
    split at success
    · exact absurd success (by simp)
    · rename_i sensible
      obtain ⟨child, middle, first, -⟩ := ok_of_around success
      exact ⟨boundsFault?_eq_none_iff.1 sensible, lower_admissible inner none first⟩

/-- Expressions whose elements are made are admissible. -/
theorem lowerAll_admissible : ∀ (exprs : List Expr) {start last : Lowering} {ids : List Nat},
    lowerAll definitions case resolve rule exprs start = .ok (ids, last) →
      Expr.AdmissibleAll case exprs
  | [], _, _, _, _ => True.intro
  | child :: rest, _, _, _, success => by
    rw [lowerAll] at success
    obtain ⟨⟨id, middle⟩, first, success⟩ := ok_of_bind success
    obtain ⟨⟨others, final⟩, second, -⟩ := ok_of_bind success
    exact ⟨lower_admissible child none first, lowerAll_admissible rest second⟩

end

/-- Making the element of a definition answers the requests of definitions only. -/
theorem lowerDefinition_serves (depth : Nat) (name : String) :
    Serves definitions case [] name (lowerDefinition definitions case depth name) := by
  induction depth generalizing name with
  | zero =>
    intro start id last earlier tracks success
    exact absurd success (by simp [lowerDefinition])
  | succ depth hypothesis =>
    intro start id last earlier tracks success
    have sound : ∀ target, Sound case none (lowerDefinition definitions case depth target) :=
      lowerDefinition_makes depth
    rw [lowerDefinition] at success
    split at success
    · rename_i noted found
      obtain ⟨rfl, rfl⟩ := Prod.mk.inj (Except.ok.inj success)
      obtain ⟨before, after, split, -⟩ := List.lookup_eq_some_iff.1 found
      obtain ⟨element, stands, named, -⟩ :=
        tracks.records.noted (name, noted) (by simp [split])
      exact ⟨by rwa [List.append_nil], (elementName_of_getElem? stands).trans named⟩
    · split at success
      · exact absurd success (by simp)
      · rename_i definition found
        obtain ⟨⟨made, middle⟩, first, second⟩ := ok_of_bind success
        obtain ⟨rfl, rfl⟩ := Prod.mk.inj (Except.ok.inj second)
        have makes := lower_makes sound definition.expr (some name) start made middle
          tracks.records.bounded first
        obtain ⟨done, named⟩ := lower_serves sound hypothesis definition.expr (some name) start made
          middle earlier tracks first
        refine ⟨⟨?_, ?_⟩, named⟩
        · have owner : definition.name = name := by simpa using List.find?_some found
          have same : definition.expr.requests case (some name) =
              requestsOf definitions case name := by
            rw [requestsOf, found, Option.map_some, Option.getD_some, Definition.requests, owner]
          rw [same] at done
          have records := done.records.note (makes.named name rfl)
          simpa only [List.append_nil, List.map_cons, List.flatMap_cons, List.append_assoc]
            using records
        · intro entry member
          rcases List.mem_cons.1 member with rfl | member
          · exact ⟨definition, found, lower_admissible definition.expr (some name) first⟩
          · exact done.admissible entry member

/-- A definition that is made is noted. -/
theorem lowerDefinition_notes {depth : Nat} {name : String} {start last : Lowering} {id : Nat}
    (success : lowerDefinition definitions case depth name start = .ok (id, last)) :
    name ∈ last.bound.map (·.1) := by
  cases depth with
  | zero => exact absurd success (by simp [lowerDefinition])
  | succ depth =>
    rw [lowerDefinition] at success
    split at success
    · rename_i noted found
      obtain ⟨rfl, rfl⟩ := Prod.mk.inj (Except.ok.inj success)
      obtain ⟨before, after, split, -⟩ := List.lookup_eq_some_iff.1 found
      simp [split]
    · split at success
      · exact absurd success (by simp)
      · obtain ⟨⟨made, middle⟩, -, second⟩ := ok_of_bind success
        obtain ⟨rfl, rfl⟩ := Prod.mk.inj (Except.ok.inj second)
        simp

/-- Making the elements of definitions in order answers their requests and notes each of them. -/
theorem lowerDefinitions_tracks (remaining : List Definition) {start last : Lowering}
    {earlier : List Request} (tracks : Tracks definitions case start earlier)
    (success : lowerDefinitions definitions case remaining start = .ok last) :
    Tracks definitions case last earlier ∧
      ∀ definition ∈ remaining, definition.name ∈ last.bound.map (·.1) := by
  induction remaining generalizing start with
  | nil =>
    obtain rfl := Except.ok.inj success
    exact ⟨tracks, by simp⟩
  | cons definition rest hypothesis =>
    rw [lowerDefinitions] at success
    obtain ⟨⟨id, middle⟩, first, second⟩ := ok_of_bind success
    obtain ⟨done, -⟩ := lowerDefinition_serves _ _ start id middle earlier tracks first
    rw [List.append_nil] at done
    obtain ⟨finished, noted⟩ := hypothesis done second
    refine ⟨finished, fun other member => ?_⟩
    rcases List.mem_cons.1 member with rfl | member
    · have kept :=
        (lowerDefinitions_grows rest middle last done.records.bounded second).keeps_bound
      exact (kept.map (·.1)).subset (lowerDefinition_notes first)
    · exact noted other member

/-- No definition is finished twice, since each asks for its own name. -/
theorem Tracks.nodup {state : Lowering} {earlier : List Request}
    (tracks : Tracks definitions case state earlier) : (state.bound.map (·.1)).Nodup := by
  have apart := (List.pairwise_append.1 tracks.records.apart).2.1
  rw [List.pairwise_flatMap] at apart
  refine apart.2.imp_of_mem ?_
  rintro name other listed - separate rfl
  obtain ⟨entry, member, rfl⟩ := List.mem_map.1 listed
  obtain ⟨definition, found, -⟩ := tracks.admissible entry member
  have owner : definition.name = entry.1 := by simpa using List.find?_some found
  obtain ⟨request, asked, named, explicit⟩ :=
    definition.expr.exists_mem_requests case definition.name
  have inside : request ∈ requestsOf definitions case entry.1 := by
    rw [requestsOf, found]
    exact asked
  exact separate request inside request inside ⟨rfl, Or.inl explicit⟩

/-- The definitions that are finished are given. -/
theorem Tracks.known {state : Lowering} {earlier : List Request}
    (tracks : Tracks definitions case state earlier) {name : String}
    (listed : name ∈ state.bound.map (·.1)) : name ∈ definitions.map (·.name) := by
  obtain ⟨entry, member, rfl⟩ := List.mem_map.1 listed
  obtain ⟨definition, found, -⟩ := tracks.admissible entry member
  have owner : definition.name = entry.1 := by simpa using List.find?_some found
  exact List.mem_map.2 ⟨definition, List.mem_of_find?_eq_some found, owner⟩

/-- The requests of all definitions are those of their names. -/
theorem flatMap_requests (distinct : (definitions.map (·.name)).Nodup) :
    definitions.flatMap (·.requests case) =
      (definitions.map (·.name)).flatMap (requestsOf definitions case) := by
  rw [List.flatMap_map]
  refine List.flatMap_congr fun definition member => ?_
  rw [requestsOf, (Declaration.find?_eq_some_iff distinct _ _).2 ⟨member, rfl⟩]
  rfl

/-- Making the elements of all definitions answers the requests of all definitions, and each of
them is admissible. -/
theorem lowerDefinitions_records (distinct : (definitions.map (·.name)).Nodup) {last : Lowering}
    (success : lowerDefinitions definitions case definitions {} = .ok last) :
    Records case last (definitions.flatMap (·.requests case)) ∧
      (∀ definition ∈ definitions, definition.name ∈ last.bound.map (·.1)) ∧
      ∀ definition ∈ definitions, definition.expr.Admissible case := by
  have start : Tracks definitions case {} [] := ⟨.nil case, by simp⟩
  obtain ⟨tracks, noted⟩ := lowerDefinitions_tracks definitions start success
  have named : ∀ name, name ∈ last.bound.map (·.1) ↔ name ∈ definitions.map (·.name) := by
    intro name
    constructor
    · exact tracks.known
    · intro listed
      obtain ⟨definition, member, rfl⟩ := List.mem_map.1 listed
      exact noted definition member
  refine ⟨?_, noted, fun definition member => ?_⟩
  · have order := (List.perm_ext_iff_of_nodup tracks.nodup distinct).2 named
    rw [flatMap_requests distinct]
    exact tracks.records.perm (order.flatMap_right _)
  · obtain ⟨entry, listed, same⟩ := List.mem_map.1 (noted definition member)
    obtain ⟨other, found, admissible⟩ := tracks.admissible entry listed
    have one := (Declaration.find?_eq_some_iff distinct _ _).2 ⟨member, same.symm⟩
    rw [Option.some.inj (one.symm.trans found)]
    exact admissible

end

end Lowering

end Utterance

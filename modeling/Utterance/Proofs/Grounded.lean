import Utterance.Grammar.Lowering
import Utterance.Proofs.Literals

/-!
# The elements that a declaration builds

Building a grammar does two things to its state: it adds one element under a name that is new, made
of elements that are there already, and it notes which element a definition became.
`Lowering.Grows` says so once, and every fact about built grammars follows from it by induction.
The facts that a search relies on are `Grounded`: each kind is admissible where it stands, so
children stand before their parents, and each flag for empty matches agrees with the kind.
-/
namespace Utterance

/-- What the element at a place matches. -/
def kindOf? (elements : List Element) (id : Nat) : Option Kind := elements[id]?.map (·.kind)

/-- Whether a kind may be added after a number of elements: it is made of those, and its parts are
what a declaration admits. -/
def Kind.Admissible (case : CasePolicy) (size : Nat) (kind : Kind) : Prop :=
  (∀ child ∈ kind.children, child < size) ∧
    match kind with
    | .literals set => ∃ members, set = .ofMembers case members ∧ set.isEmpty = false
    | .pattern matcher => ∃ source, Pattern.compile case source = .ok matcher
    | .sequence children => children ≠ []
    | .choice children => children ≠ []
    | .optional _ => True
    | .repetition _ min max => Lowering.boundsFault? min max = none

/-- Elements in an order that a search can follow: each is admissible after those before it, and is
marked as having an empty match when its kind has one. -/
structure Grounded (case : CasePolicy) (elements : List Element) : Prop where
  /-- Each kind is admissible at its place. -/
  admissible : ∀ id kind, kindOf? elements id = some kind → kind.Admissible case id
  /-- Each mark agrees with the kind. -/
  nullable : ∀ id kind, kindOf? elements id = some kind →
    elementNullable elements id = kind.nullable (elementNullable elements)

namespace Kind

/-- Whether a kind has an empty match depends on its children only. -/
theorem nullable_congr (kind : Kind) (left right : Nat → Bool)
    (agree : ∀ child ∈ kind.children, left child = right child) :
    kind.nullable left = kind.nullable right := by
  cases kind with
  | literals set => rfl
  | pattern matcher => rfl
  | sequence children =>
    simp only [nullable]
    rw [Bool.eq_iff_iff, List.all_eq_true, List.all_eq_true]
    exact forall₂_congr fun child member => by rw [agree child member]
  | choice children =>
    simp only [nullable]
    rw [Bool.eq_iff_iff, List.any_eq_true, List.any_eq_true]
    exact exists_congr fun child => and_congr_right fun member => by rw [agree child member]
  | optional inner => rfl
  | repetition inner min max =>
    simp only [nullable]
    rw [agree inner (by simp [children])]

end Kind

/-- An element that is there stays where it is when others are added. -/
theorem kindOf?_append (elements more : List Element) (id : Nat) (inside : id < elements.length) :
    kindOf? (elements ++ more) id = kindOf? elements id := by
  simp only [kindOf?, List.getElem?_append_left inside]

/-- The mark of an element that is there stays when others are added. -/
theorem elementNullable_append (elements more : List Element) (id : Nat)
    (inside : id < elements.length) :
    elementNullable (elements ++ more) id = elementNullable elements id := by
  simp only [elementNullable, List.getElem?_append_left inside]

/-- Only places of elements have a kind. -/
theorem lt_length_of_kindOf? {elements : List Element} {id : Nat} {kind : Kind}
    (present : kindOf? elements id = some kind) : id < elements.length := by
  obtain ⟨element, found, -⟩ := Option.map_eq_some_iff.1 present
  exact (List.getElem?_eq_some_iff.1 found).1

namespace Grounded

variable {case : CasePolicy} {elements : List Element}

/-- No elements are grounded. -/
theorem nil (case : CasePolicy) : Grounded case [] :=
  ⟨fun _ _ present => absurd (lt_length_of_kindOf? present) (Nat.not_lt_zero _),
    fun _ _ present => absurd (lt_length_of_kindOf? present) (Nat.not_lt_zero _)⟩

/-- Children stand before their parents. -/
theorem child_lt (grounded : Grounded case elements) {id child : Nat} {kind : Kind}
    (present : kindOf? elements id = some kind) (member : child ∈ kind.children) : child < id :=
  (grounded.admissible id kind present).1 child member

/-- An admissible element with the right mark may be added. -/
theorem add (grounded : Grounded case elements) (name : String) (explicit : Bool) (kind : Kind)
    (admissible : kind.Admissible case elements.length) :
    Grounded case (elements ++
      [{ name, explicit, kind, nullable := kind.nullable (elementNullable elements) }]) := by
  obtain ⟨element, added⟩ : ∃ element : Element,
      ⟨name, explicit, kind, kind.nullable (elementNullable elements)⟩ = element := ⟨_, rfl⟩
  rw [added]
  have last : kindOf? (elements ++ [element]) elements.length = some kind := by
    simp [kindOf?, ← added]
  have marks : ∀ kind : Kind, (∀ child ∈ kind.children, child < elements.length) →
      kind.nullable (elementNullable (elements ++ [element])) =
        kind.nullable (elementNullable elements) := fun kind below =>
    kind.nullable_congr _ _ fun child member =>
      elementNullable_append elements [element] child (below child member)
  have cases : ∀ id other, kindOf? (elements ++ [element]) id = some other →
      kindOf? elements id = some other ∨ (id = elements.length ∧ other = kind) := by
    intro id other present
    have inside := lt_length_of_kindOf? present
    rw [List.length_append, List.length_singleton] at inside
    by_cases old : id < elements.length
    · rw [kindOf?_append elements _ id old] at present
      exact Or.inl present
    · have same : id = elements.length := by omega
      rw [same, last] at present
      exact Or.inr ⟨same, (Option.some.inj present).symm⟩
  constructor
  · intro id other present
    rcases cases id other present with old | ⟨rfl, rfl⟩
    · exact grounded.admissible id other old
    · exact admissible
  · intro id other present
    rcases cases id other present with old | ⟨rfl, rfl⟩
    · have inside := lt_length_of_kindOf? old
      rw [elementNullable_append elements _ id inside, grounded.nullable id other old]
      rw [marks other fun child member => Nat.lt_trans (grounded.child_lt old member) inside]
    · rw [marks other admissible.1]
      simp [elementNullable, ← added]

end Grounded

namespace Lowering

/-- Bounds without a fault are in order. -/
theorem min_le_of_boundsFault? {min most : Nat} (sensible : boundsFault? min (some most) = none) :
    min ≤ most := by
  unfold boundsFault? at sensible
  by_cases zero : most = 0
  · simp [zero] at sensible
  · by_cases crossed : most < min
    · simp [zero, crossed] at sensible
    · omega

/-- Whether a place holds an element with a given name. -/
def Named (state : Lowering) (id : Nat) (name : String) : Prop :=
  ∃ element, state.elements[id]? = some element ∧ element.name = name ∧ element.explicit = true

/-- What building does to its state, step after step. -/
inductive Grows (case : CasePolicy) : Lowering → Lowering → Prop where
  /-- Nothing is done. -/
  | refl (state : Lowering) : Grows case state state
  /-- An element is added under a name that is new, and that is derived unless it is given. -/
  | add {start state : Lowering} {name : String} {explicit : Bool} {kind : Kind}
      (earlier : Grows case start state) (fresh : elementIndex? state.elements name = none)
      (derived : explicit = true ∨ name = kind.derivedName (elementName state.elements))
      (admissible : kind.Admissible case state.elements.length) :
      Grows case start { state with
        elements := state.elements ++
          [{ name, explicit, kind, nullable := kind.nullable (elementNullable state.elements) }] }
  /-- The element of a definition is noted. -/
  | note {start state : Lowering} {name : String} {id : Nat} (earlier : Grows case start state)
      (named : state.Named id name) :
      Grows case start { state with bound := (name, id) :: state.bound }

/-- Whether the elements that are noted exist. -/
def Bounded (state : Lowering) : Prop := ∀ entry ∈ state.bound, entry.2 < state.elements.length

/-- A named place holds an element. -/
theorem Named.lt_length {state : Lowering} {id : Nat} {name : String}
    (named : state.Named id name) : id < state.elements.length := by
  obtain ⟨element, found, -⟩ := named
  exact (List.getElem?_eq_some_iff.1 found).1

namespace Grows

variable {case : CasePolicy} {start middle last : Lowering}

/-- Steps after steps. -/
theorem trans (first : Grows case start middle) (second : Grows case middle last) :
    Grows case start last := by
  induction second with
  | refl => exact first
  | add _ fresh derived admissible hypothesis => exact .add hypothesis fresh derived admissible
  | note _ named hypothesis => exact .note hypothesis named

/-- Elements stay where they are. -/
theorem keeps_elements (grows : Grows case start last) : start.elements <+: last.elements := by
  induction grows with
  | refl => exact List.prefix_rfl
  | add _ _ _ _ hypothesis => exact hypothesis.trans (List.prefix_append _ _)
  | note _ _ hypothesis => exact hypothesis

/-- What is noted stays noted. -/
theorem keeps_bound (grows : Grows case start last) : start.bound <:+ last.bound := by
  induction grows with
  | refl => exact List.suffix_rfl
  | add _ _ _ _ hypothesis => exact hypothesis
  | note _ _ hypothesis => exact hypothesis.trans (List.suffix_cons _ _)

/-- What is noted exists, if it did at the start. -/
theorem bounded (grows : Grows case start last) (bounded : start.Bounded) : last.Bounded := by
  induction grows with
  | refl => exact bounded
  | add _ _ _ _ hypothesis =>
    intro entry member
    have inside := hypothesis entry member
    simp only [List.length_append, List.length_singleton]
    omega
  | note _ named hypothesis =>
    intro entry member
    rcases List.mem_cons.1 member with rfl | member
    · exact named.lt_length
    · exact hypothesis entry member

/-- The elements stay grounded. -/
theorem grounded (grows : Grows case start last) (grounded : Grounded case start.elements) :
    Grounded case last.elements := by
  induction grows with
  | refl => exact grounded
  | add _ _ _ admissible hypothesis => exact hypothesis.add _ _ _ admissible
  | note _ _ hypothesis => exact hypothesis

end Grows

end Lowering

end Utterance

import Mathlib.Logic.Relation
import Utterance.Proofs.Meaning

/-!
# What a built grammar looks like

A declaration that is built leaves a grammar that everything after it relies on without looking
again: names and places of elements correspond one to one, children stand before their parents, the
parts of each kind are what a search expects, every definition has the element with its name, and
actions belong to elements. `Declaration.Represents` lists these facts, and
`Declaration.represents_of_build` derives them from the ledger of the build. Which action an element
has in the end is read off the declaration (`Declaration.lookup_attach`): the last one that is
declared under its name.
-/
namespace Utterance

/-- Whether the parts of a kind are what a search expects: combinations have children, literal sets
have members and these have words, and bounds allow an occurrence and are in order. -/
def Kind.Formed : Kind → Prop
  | .literals set => set.members ≠ [] ∧ set.words ≠ [] ∧
      (∀ member ∈ set.members, LiteralSet.memberWords member ≠ []) ∧ ∀ words ∈ set.words, words ≠ []
  | .pattern _ => True
  | .sequence children => children ≠ []
  | .choice children => children ≠ []
  | .optional _ => True
  | .repetition _ min max => ∀ most, max = some most → 1 ≤ most ∧ min ≤ most

/-- Whether an element is made of another one directly. -/
def Grammar.Contains (grammar : Grammar) (parent child : Nat) : Prop :=
  ∃ kind, kindOf? grammar.elements parent = some kind ∧ child ∈ kind.children

/-- Whether a place holds the element that a name was given to. -/
def Grammar.Holds (grammar : Grammar) (id : Nat) (name : String) : Prop :=
  ∃ element, grammar.elements[id]? = some element ∧ element.name = name ∧ element.explicit = true

/-- What holds of a grammar that was built from a declaration. -/
structure Declaration.Represents (declaration : Declaration) (grammar : Grammar) : Prop where
  /-- A name leads to a place exactly when the element there has it. -/
  lookup : ∀ name id, grammar.lookup? name = some id ↔
    ∃ element, grammar.elements[id]? = some element ∧ element.name = name
  /-- Children stand before their parents. -/
  children : ∀ (id : Nat) (element : Element), grammar.elements[id]? = some element →
    ∀ child ∈ element.kind.children, child < id
  /-- No element is part of itself. -/
  acyclic : ∀ id, ¬ Relation.TransGen grammar.Contains id id
  /-- The parts of each kind are what a search expects. -/
  formed : ∀ element ∈ grammar.elements, element.kind.Formed
  /-- The name of each definition leads to the element that it was given to. -/
  definitions : ∀ definition ∈ declaration.definitions, ∃ id,
    grammar.lookup? definition.name = some id ∧ grammar.Holds id definition.name
  /-- The root is the element that the name of the start symbol was given to. -/
  root : grammar.Holds grammar.root declaration.goal
  /-- Actions are attached to elements that are there. -/
  attached : ∀ entry ∈ grammar.actions, entry.1 < grammar.size
  /-- An element has the last action that is declared under its name. -/
  actions : ∀ id, grammar.action? id =
    (declaration.actions.reverse.find? fun entry => grammar.lookup? entry.1 == some id).map (·.2)

/-- The parts of an admissible kind are what a search expects. -/
theorem Kind.Admissible.formed {case : CasePolicy} {size : Nat} {kind : Kind}
    (admissible : kind.Admissible case size) : kind.Formed := by
  cases kind with
  | literals set =>
    obtain ⟨-, members, rfl, present⟩ := admissible
    have filled : (LiteralSet.ofMembers case members).members ≠ [] := by
      simpa [LiteralSet.isEmpty] using present
    have words := LiteralSet.memberWords_ne_nil case members
    refine ⟨filled, ?_, words, ?_⟩
    · obtain ⟨member, stored⟩ := List.exists_mem_of_ne_nil _ filled
      exact List.ne_nil_of_mem
        ((LiteralSet.mem_words_ofMembers case members _).2 ⟨member, stored, rfl⟩)
    · intro entry listed
      obtain ⟨member, stored, rfl⟩ := (LiteralSet.mem_words_ofMembers case members entry).1 listed
      simpa using words member stored
  | pattern matcher => trivial
  | sequence children => exact admissible.2
  | choice children => exact admissible.2
  | optional inner => trivial
  | repetition inner min max => exact Lowering.boundsFault?_eq_none_iff.1 admissible.2

/-- Where children stand before their parents, what is part of an element stands before it. -/
theorem Grounded.lt_of_transGen {grammar : Grammar}
    (grounded : Grounded grammar.case grammar.elements) {parent part : Nat}
    (inside : Relation.TransGen grammar.Contains parent part) : part < parent := by
  induction inside with
  | single contains =>
    obtain ⟨kind, present, member⟩ := contains
    exact grounded.child_lt present member
  | tail _ contains hypothesis =>
    obtain ⟨kind, present, member⟩ := contains
    exact Nat.lt_trans (grounded.child_lt present member) hypothesis

namespace Declaration

section

variable {elements : List Element}

/-- Attached actions belong to elements, if those that were attached before do. -/
theorem lt_length_of_attach {actions : List (String × Action)}
    {before result : List (Nat × Action)} (success : attach elements actions before = .ok result)
    (inside : ∀ entry ∈ before, entry.1 < elements.length) :
    ∀ entry ∈ result, entry.1 < elements.length := by
  induction actions generalizing before with
  | nil =>
    obtain rfl := Except.ok.inj success
    exact inside
  | cons action rest hypothesis =>
    rw [attach] at success
    cases found : elementIndex? elements action.1 with
    | none => exact absurd success (by simp [found])
    | some id =>
      rw [found] at success
      refine hypothesis success fun entry listed => ?_
      rcases List.mem_cons.1 listed with rfl | kept
      · exact Lowering.lt_length_of_elementIndex? found
      · exact inside entry (List.mem_of_mem_filter kept)

/-- Taking away the action of one element leaves those of the others. -/
theorem lookup_filter_ne {removed id : Nat} (other : id ≠ removed)
    (attached : List (Nat × Action)) :
    (attached.filter (·.1 != removed)).lookup id = attached.lookup id := by
  induction attached with
  | nil => rfl
  | cons entry rest hypothesis =>
    by_cases same : entry.1 = removed
    · have apart : (id == entry.1) = false := by
        rw [same]
        exact beq_false_of_ne other
      rw [List.filter_cons_of_neg (by simp [same]), List.lookup_cons, apart]
      exact hypothesis
    · rw [List.filter_cons_of_pos (by simpa using same), List.lookup_cons, List.lookup_cons,
        hypothesis]

/-- An element has the last action that is declared under its name, and where there is none the one
that was attached before. -/
theorem lookup_attach {actions : List (String × Action)} {before result : List (Nat × Action)}
    (success : attach elements actions before = .ok result) (id : Nat) :
    result.lookup id =
      ((actions.reverse.find? fun entry => elementIndex? elements entry.1 == some id).map
        (·.2)).or (before.lookup id) := by
  induction actions generalizing before with
  | nil =>
    obtain rfl := Except.ok.inj success
    rfl
  | cons action rest hypothesis =>
    rw [attach] at success
    cases found : elementIndex? elements action.1 with
    | none => exact absurd success (by simp [found])
    | some target =>
      rw [found] at success
      rw [hypothesis success, List.reverse_cons, List.find?_append, Option.map_or, Option.or_assoc]
      congr 1
      by_cases same : id = target
      · simp [found, same]
      · have other : ¬ target = id := fun equal => same equal.symm
        rw [List.lookup_cons, beq_false_of_ne same, lookup_filter_ne same]
        simp [found, other]

end

variable {declaration : Declaration} {grammar : Grammar} {state : Lowering}

/-- A name leads to a place exactly when the element there has it. -/
theorem Builds.lookup?_eq_some_iff (builds : Builds declaration state grammar) (name : String)
    (id : Nat) :
    grammar.lookup? name = some id ↔
      ∃ element, grammar.elements[id]? = some element ∧ element.name = name := by
  obtain ⟨records, -, -⟩ := builds.records
  rw [Grammar.lookup?, builds.elements]
  constructor
  · exact exists_of_elementIndex?
  · rintro ⟨element, found, rfl⟩
    exact elementIndex?_of_getElem? records.distinct found

/-- The name of a definition leads to the element that it was given to. -/
theorem Builds.exists_holds (builds : Builds declaration state grammar) {name : String}
    (given : name ∈ declaration.definitions.map (·.name)) :
    ∃ id, grammar.lookup? name = some id ∧ grammar.Holds id name := by
  obtain ⟨records, finished, -⟩ := builds.records
  obtain ⟨definition, member, rfl⟩ := List.mem_map.1 given
  obtain ⟨entry, noted, same⟩ := List.mem_map.1 (finished definition member)
  have named := records.noted entry noted
  rw [same] at named
  have holds : grammar.Holds entry.2 definition.name := by
    rw [Grammar.Holds, builds.elements]
    exact named
  refine ⟨entry.2, (builds.lookup?_eq_some_iff _ _).2 ?_, holds⟩
  obtain ⟨element, stands, owner, -⟩ := holds
  exact ⟨element, stands, owner⟩

/-- A grammar that was built has what everything after it relies on: names and places correspond,
children stand before parents, kinds are formed, definitions and the start symbol have elements
under the names they were given, and actions belong to elements. -/
theorem represents_of_build (built : declaration.build = .ok grammar) :
    declaration.Represents grammar := by
  obtain ⟨state, builds⟩ := build_eq_ok_iff.1 built
  have grounded := grounded_of_build built
  have present : ∀ id element, grammar.elements[id]? = some element →
      kindOf? grammar.elements id = some element.kind := by
    intro id element found
    rw [kindOf?, found, Option.map_some]
  refine ⟨builds.lookup?_eq_some_iff, ?_, ?_, ?_, ?_, ?_, ?_, ?_⟩
  · intro id element found child member
    exact grounded.child_lt (present id element found) member
  · intro id inside
    exact Nat.lt_irrefl id (grounded.lt_of_transGen inside)
  · intro element member
    obtain ⟨id, found⟩ := List.mem_iff_getElem?.1 member
    exact (grounded.admissible id _ (present id element found)).formed
  · intro definition member
    exact builds.exists_holds (List.mem_map_of_mem member)
  · obtain ⟨id, found, holds⟩ := builds.exists_holds builds.goal
    rw [builds.lookup?_goal] at found
    rw [Option.some.inj found]
    exact holds
  · have attached := builds.attached
    rw [← builds.elements] at attached
    exact lt_length_of_attach attached (by simp)
  · intro id
    have attached := builds.attached
    rw [← builds.elements] at attached
    have last := lookup_attach attached id
    rw [List.lookup_nil, Option.or_none] at last
    exact last

/-- Commands to a door with two actions for one element, and one for an element without a given
name. -/
def actingDoor : Declaration :=
  { doorDeclaration with
    actions := [("VERB", fun _ => .error "no verb"), ("Set(the)", fun _ => .error "no article"),
      ("VERB", fun _ => .error "no verb at all")] }

/-- The grammar for doors is what is relied on; in it the root has the name of the start symbol, and
the second action for the verb has replaced the first. -/
theorem acting_door_is_represented : ∃ grammar, actingDoor.build = .ok grammar ∧
    grammar.size = 12 ∧ actingDoor.Represents grammar ∧ grammar.Holds grammar.root "GOAL" ∧
    ∃ id, grammar.lookup? "VERB" = some id ∧
      (grammar.action? id).map (fun action => action .nil) = some (.error "no verb at all") := by
  obtain ⟨grammar, built, size⟩ : ∃ grammar, actingDoor.build = .ok grammar ∧ grammar.size = 12 :=
    exists_built (by decide +kernel)
  have represents := represents_of_build built
  have verb : ⟨"VERB", .named "WORD" (.choice [.literals ["open"], .literals ["shut"]])⟩ ∈
      actingDoor.definitions := by simp [actingDoor, doorDeclaration]
  obtain ⟨id, found, -⟩ := represents.definitions _ verb
  refine ⟨grammar, built, size, represents, represents.root, id, found, ?_⟩
  rw [represents.actions id]
  simp [actingDoor, found]

end Declaration

end Utterance

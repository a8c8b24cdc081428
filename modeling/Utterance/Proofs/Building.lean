import Utterance.Proofs.Grounded

/-!
# Every build is a growth of elements

Each function that turns expressions into elements only grows its state, and gives an element that
is there afterwards; under a given name it gives an element that has this name. There is one lemma
for an element around another one (`Lowering.around_makes`) and one for an element around children,
of which there must be some (`Lowering.aroundAll_makes`). Expressions are followed by their
structure, and other definitions by the depth. The result is that the elements of a grammar that was
built are grounded (`Declaration.grounded_of_build`).
-/
namespace Utterance

/-- A chain of computations succeeds when its first part does and the rest does with its result. -/
theorem ok_of_bind {ε α β : Type} {first : Except ε α} {rest : α → Except ε β} {result : β}
    (success : first >>= rest = .ok result) :
    ∃ value, first = .ok value ∧ rest value = .ok result := by
  cases first with
  | error fault => exact absurd success (by simp [bind, Except.bind])
  | ok value => exact ⟨value, rfl, success⟩

namespace Lowering

variable {case : CasePolicy} {definitions : List Definition} {rule : String}

/-- What a step that makes an element does: it grows the state, and its element is there and has
the name that was given. -/
structure Makes (case : CasePolicy) (given : Option String) (start : Lowering) (id : Nat)
    (last : Lowering) : Prop where
  /-- The state grows. -/
  grows : Grows case start last
  /-- The element is there. -/
  inside : id < last.elements.length
  /-- The element has the given name. -/
  named : ∀ name, given = some name → last.Named id name

/-- A step that makes elements from a state whose notes are in order. -/
abbrev Sound (case : CasePolicy) (given : Option String) (step : Step) : Prop :=
  ∀ start id last, start.Bounded → step start = .ok (id, last) → Makes case given start id last

/-- What a step that makes the elements of children does: it grows the state, and gives one element
for each child, which is there. -/
structure MakesAll (case : CasePolicy) (count : Nat) (start : Lowering) (ids : List Nat)
    (last : Lowering) : Prop where
  /-- The state grows. -/
  grows : Grows case start last
  /-- The elements are there. -/
  inside : ∀ id ∈ ids, id < last.elements.length
  /-- There is one for each child. -/
  length_eq : ids.length = count

/-- A step that makes the elements of a number of children from a state whose notes are in order. -/
abbrev SoundAll (case : CasePolicy) (count : Nat) (steps : Steps) : Prop :=
  ∀ start ids last, start.Bounded → steps start = .ok (ids, last) →
    MakesAll case count start ids last

/-- Whether a kind around one element is admissible wherever the element is there. -/
def Fits (case : CasePolicy) (kind : Nat → Kind) : Prop :=
  ∀ id size, id < size → (kind id).Admissible case size

/-- Whether a kind around elements is admissible wherever there are some and all are there. -/
def FitsAll (case : CasePolicy) (kind : List Nat → Kind) : Prop :=
  ∀ ids size, ids ≠ [] → (∀ id ∈ ids, id < size) → (kind ids).Admissible case size

/-- A choice of one element fits. -/
theorem fits_single (case : CasePolicy) : Fits case fun id => .choice [id] :=
  fun _ _ inside => ⟨by simpa [Kind.children] using inside, by simp⟩

/-- An optional element fits. -/
theorem fits_optional (case : CasePolicy) : Fits case .optional :=
  fun _ _ inside => ⟨by simpa [Kind.children] using inside, True.intro⟩

/-- A repetition fits, if its bounds have no fault. -/
theorem fits_repetition (case : CasePolicy) {min : Nat} {max : Option Nat}
    (sensible : boundsFault? min max = none) : Fits case fun id => .repetition id min max :=
  fun _ _ inside => ⟨by simpa [Kind.children] using inside, sensible⟩

/-- A sequence fits. -/
theorem fitsAll_sequence (case : CasePolicy) : FitsAll case .sequence :=
  fun _ _ filled inside => ⟨inside, filled⟩

/-- A choice fits. -/
theorem fitsAll_choice (case : CasePolicy) : FitsAll case .choice :=
  fun _ _ filled inside => ⟨inside, filled⟩

/-- Steps before a step that makes an element. -/
theorem Makes.after {given : Option String} {start middle last : Lowering} {id : Nat}
    (makes : Makes case given middle id last) (earlier : Grows case start middle) :
    Makes case given start id last :=
  ⟨earlier.trans makes.grows, makes.inside, makes.named⟩

/-- A name that is found belongs to an element. -/
theorem lt_length_of_elementIndex? {elements : List Element} {name : String} {id : Nat}
    (found : elementIndex? elements name = some id) : id < elements.length :=
  (List.findIdx?_eq_some_iff_getElem.1 found).1

/-- Adding an element of an admissible kind, or taking the one that has its name. -/
theorem intern_makes {given : Option String} {kind : Kind} {start last : Lowering} {id : Nat}
    (admissible : kind.Admissible case start.elements.length)
    (success : intern definitions rule given kind start = .ok (id, last)) :
    Makes case given start id last := by
  unfold intern at success
  simp only at success
  split at success
  · rename_i existing found
    split at success
    · rename_i shared
      obtain ⟨rfl, rfl⟩ := Prod.mk.inj (Except.ok.inj success)
      refine ⟨.refl _, lt_length_of_elementIndex? found, ?_⟩
      rintro name rfl
      simp at shared
    · exact absurd success (by simp)
  · rename_i fresh
    obtain ⟨rfl, rfl⟩ := Prod.mk.inj (Except.ok.inj success)
    refine ⟨.add (.refl _) fresh ?_ admissible, by simp, ?_⟩
    · cases given with
      | none => exact Or.inr rfl
      | some name => exact Or.inl rfl
    · rintro name rfl
      exact ⟨_, List.getElem?_concat_length, rfl, rfl⟩

/-- An element around another one is made after that one. -/
theorem ok_of_around {given : Option String} {kind : Nat → Kind} {inner : Step}
    {start last : Lowering} {id : Nat}
    (success : around definitions rule given kind inner start = .ok (id, last)) :
    ∃ child middle, inner start = .ok (child, middle) ∧
      intern definitions rule given (kind child) middle = .ok (id, last) := by
  obtain ⟨⟨child, middle⟩, first, second⟩ := ok_of_bind success
  exact ⟨child, middle, first, second⟩

/-- An element around children is made after them, and there is a child. -/
theorem ok_of_aroundAll {given : Option String} {kind : List Nat → Kind} {children : List Expr}
    {inner : Steps} {start last : Lowering} {id : Nat}
    (success : aroundAll definitions rule given kind children inner start = .ok (id, last)) :
    children ≠ [] ∧ ∃ ids middle, inner start = .ok (ids, middle) ∧
      intern definitions rule given (kind ids) middle = .ok (id, last) := by
  unfold aroundAll at success
  by_cases empty : children.isEmpty = true
  · rw [if_pos empty] at success
    exact absurd success (by simp)
  · rw [if_neg empty] at success
    obtain ⟨⟨ids, middle⟩, first, second⟩ := ok_of_bind success
    exact ⟨by simpa using empty, ids, middle, first, second⟩

/-- Making an element around another one. -/
theorem around_makes {inside given : Option String} {kind : Nat → Kind} {inner : Step}
    (fits : Fits case kind) (sound : Sound case inside inner) :
    Sound case given (around definitions rule given kind inner) := by
  intro start id last bounded success
  obtain ⟨child, middle, first, second⟩ := ok_of_around success
  have made : Makes case inside start child middle := sound start child middle bounded first
  exact (intern_makes (fits child _ made.inside) second).after made.grows

/-- Making an element around children. -/
theorem aroundAll_makes {given : Option String} {kind : List Nat → Kind} {children : List Expr}
    {inner : Steps} (fits : FitsAll case kind) (sound : SoundAll case children.length inner) :
    Sound case given (aroundAll definitions rule given kind children inner) := by
  intro start id last bounded success
  obtain ⟨some, ids, middle, first, second⟩ := ok_of_aroundAll success
  have made : MakesAll case children.length start ids middle :=
    sound start ids middle bounded first
  have filled : ids ≠ [] := by
    rw [← List.length_pos_iff, made.length_eq]
    exact List.length_pos_iff.2 some
  exact (intern_makes (fits ids _ filled made.inside) second).after made.grows

mutual

/-- Making the element of an expression, when other definitions are made soundly. -/
theorem lower_makes {resolve : String → Step}
    (resolved : ∀ target, Sound case none (resolve target)) :
    ∀ (expr : Expr) (given : Option String),
      Sound case given (lower definitions case resolve rule expr given)
  | .named name inner, none => by
    intro start id last bounded success
    rw [lower] at success
    have made := lower_makes resolved inner (some name) start id last bounded success
    exact ⟨made.grows, made.inside, by simp⟩
  | .named name inner, some outer => by
    rw [lower]
    exact around_makes (fits_single case) (lower_makes resolved inner (some name))
  | .rule target, none => by
    rw [lower]
    exact resolved target
  | .rule target, some outer => by
    rw [lower]
    exact around_makes (fits_single case) (resolved target)
  | .literals members, given => by
    intro start id last bounded success
    simp only [lower] at success
    split at success
    · exact absurd success (by simp)
    · rename_i present
      have admissible : (Kind.literals (.ofMembers case members)).Admissible case
          start.elements.length := ⟨by simp [Kind.children], members, rfl, by simpa using present⟩
      exact intern_makes admissible success
  | .pattern source, given => by
    intro start id last bounded success
    simp only [lower] at success
    split at success
    · exact absurd success (by simp)
    · rename_i matcher compiled
      have admissible : (Kind.pattern matcher).Admissible case start.elements.length :=
        ⟨by simp [Kind.children], source, compiled⟩
      exact intern_makes admissible success
  | .sequence children, given => by
    rw [lower]
    exact aroundAll_makes (fitsAll_sequence case) (lowerAll_makes resolved children)
  | .choice children, given => by
    rw [lower]
    exact aroundAll_makes (fitsAll_choice case) (lowerAll_makes resolved children)
  | .optional inner, given => by
    rw [lower]
    exact around_makes (fits_optional case) (lower_makes resolved inner none)
  | .repetition inner min max, given => by
    intro start id last bounded success
    simp only [lower] at success
    split at success
    · exact absurd success (by simp)
    · rename_i sensible
      exact around_makes (fits_repetition case sensible) (lower_makes resolved inner none) start id
        last bounded success

/-- Making the elements of expressions one after another. -/
theorem lowerAll_makes {resolve : String → Step}
    (resolved : ∀ target, Sound case none (resolve target)) :
    ∀ exprs : List Expr,
      SoundAll case exprs.length (lowerAll definitions case resolve rule exprs)
  | [] => by
    intro start ids last bounded success
    rw [lowerAll] at success
    obtain ⟨rfl, rfl⟩ := Prod.mk.inj (Except.ok.inj success)
    exact ⟨.refl _, by simp, rfl⟩
  | child :: rest => by
    intro start ids last bounded success
    rw [lowerAll] at success
    obtain ⟨⟨id, middle⟩, first, success⟩ := ok_of_bind success
    obtain ⟨⟨others, final⟩, second, success⟩ := ok_of_bind success
    obtain ⟨rfl, rfl⟩ := Prod.mk.inj (Except.ok.inj success)
    have made := lower_makes resolved child none start id middle bounded first
    have later :=
      lowerAll_makes resolved rest middle others final (made.grows.bounded bounded) second
    refine ⟨made.grows.trans later.grows, ?_, by simp [later.length_eq]⟩
    intro entry member
    rcases List.mem_cons.1 member with rfl | member
    · exact Nat.lt_of_lt_of_le made.inside later.grows.keeps_elements.length_le
    · exact later.inside entry member

end

/-- Making the element of a definition. -/
theorem lowerDefinition_makes (depth : Nat) (name : String) :
    Sound case none (lowerDefinition definitions case depth name) := by
  induction depth generalizing name with
  | zero =>
    intro start id last bounded success
    exact absurd success (by simp [lowerDefinition])
  | succ depth hypothesis =>
    intro start id last bounded success
    rw [lowerDefinition] at success
    split at success
    · rename_i noted found
      obtain ⟨rfl, rfl⟩ := Prod.mk.inj (Except.ok.inj success)
      obtain ⟨before, after, split, -⟩ := List.lookup_eq_some_iff.1 found
      exact ⟨.refl _, bounded (name, noted) (by simp [split]), by simp⟩
    · split at success
      · exact absurd success (by simp)
      · rename_i definition _
        obtain ⟨⟨made, middle⟩, first, second⟩ := ok_of_bind success
        obtain ⟨rfl, rfl⟩ := Prod.mk.inj (Except.ok.inj second)
        have makes :=
          lower_makes hypothesis definition.expr (some name) start made middle bounded first
        exact ⟨.note makes.grows (makes.named name rfl), makes.inside, by simp⟩

/-- Making the elements of definitions in order. -/
theorem lowerDefinitions_grows (remaining : List Definition) (start last : Lowering)
    (bounded : start.Bounded)
    (success : lowerDefinitions definitions case remaining start = .ok last) :
    Grows case start last := by
  induction remaining generalizing start with
  | nil =>
    obtain rfl := Except.ok.inj success
    exact .refl _
  | cons definition rest hypothesis =>
    rw [lowerDefinitions] at success
    obtain ⟨⟨id, middle⟩, first, second⟩ := ok_of_bind success
    have makes := lowerDefinition_makes _ _ start id middle bounded first
    exact makes.grows.trans (hypothesis middle (makes.grows.bounded bounded) second)

end Lowering

namespace Declaration

/-- A grammar that was built comes from a growth of elements from nothing. -/
theorem grows_of_build {declaration : Declaration} {grammar : Grammar}
    (built : declaration.build = .ok grammar) :
    ∃ state, Lowering.Grows declaration.case {} state ∧ grammar.elements = state.elements ∧
      grammar.case = declaration.case := by
  unfold build at built
  obtain ⟨-, -, built⟩ := ok_of_bind built
  obtain ⟨-, -, built⟩ := ok_of_bind built
  obtain ⟨-, -, built⟩ := ok_of_bind built
  obtain ⟨state, lowered, built⟩ := ok_of_bind built
  obtain ⟨actions, -, built⟩ := ok_of_bind built
  obtain rfl := Except.ok.inj built
  have grows := Lowering.lowerDefinitions_grows _ _ _ (by simp [Lowering.Bounded]) lowered
  exact ⟨state, grows, rfl, rfl⟩

/-- The elements of a grammar that was built are grounded. -/
theorem grounded_of_build {declaration : Declaration} {grammar : Grammar}
    (built : declaration.build = .ok grammar) : Grounded grammar.case grammar.elements := by
  obtain ⟨state, grows, elements, policy⟩ := grows_of_build built
  rw [elements, policy]
  exact grows.grounded (.nil _)

end Declaration

/-- A build that can be evaluated gives a grammar. -/
theorem exists_built {α : Type} {declaration : Declaration} {read : Grammar → α} {value : α}
    (evaluated : declaration.build.toOption.map read = some value) :
    ∃ grammar, declaration.build = .ok grammar ∧ read grammar = value := by
  cases built : declaration.build with
  | error fault => exact absurd evaluated (by simp [built, Except.toOption])
  | ok grammar =>
    rw [built] at evaluated
    exact ⟨grammar, rfl, Option.some.inj evaluated⟩

end Utterance

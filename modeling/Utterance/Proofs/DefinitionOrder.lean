import Utterance.Proofs.Correspondence
import Utterance.Proofs.Counterpart
import Utterance.Proofs.Representation

/-!
# The order of definitions

Definitions may stand in any order. Each check of a declaration asks for something of all its
definitions together, so a declaration is built in one order when it is in another
(`Declaration.exists_build_of_perm`). The elements are made in another order, and get other places;
but the requests that they answer are the same, so if no derived name is asked for with two shapes,
the grammars are counterparts of each other (`Declaration.Builds.counterpart`). They bind the same
names to the same elements, and have the same parses.
-/
namespace Utterance

section

variable {definitions others : List Definition} {case : CasePolicy}

/-- References do not depend on the order of definitions. -/
theorem Declaration.refers_of_perm (perm : definitions.Perm others) :
    Refers others = Refers definitions := by
  funext user used
  simp only [Refers, perm.mem_iff]

/-- Whether definitions can be made does not depend on their order. -/
theorem Lowering.Makeable.perm (makeable : Makeable definitions case)
    (perm : definitions.Perm others) : Makeable others case where
  distinct := (perm.map _).nodup_iff.1 makeable.distinct
  references := fun definition member used uses =>
    (perm.map _).subset (makeable.references definition (perm.mem_iff.2 member) used uses)
  acyclic := by
    rw [Declaration.Acyclic, Declaration.refers_of_perm perm]
    exact makeable.acyclic
  admissible := fun definition member => makeable.admissible definition (perm.mem_iff.2 member)
  apart := ((perm.flatMap_right _).pairwise_iff fun separate clashes =>
    separate clashes.symm).1 makeable.apart

/-- Definitions that can be made are made. -/
theorem Lowering.Makeable.exists_made (makeable : Makeable definitions case) :
    ∃ state, lowerDefinitions definitions case definitions {} = .ok state := by
  have ready : Ready definitions case [] {} [] [] :=
    ⟨⟨.nil case, by simp⟩, by simp, by simp, by simp⟩
  exact lowerDefinitions_succeeds makeable definitions (List.Subset.refl _) ready

end

namespace Declaration

variable {declaration : Declaration} {definitions : List Definition} {grammar image : Grammar}
  {state other : Lowering}

/-- Definitions that were made can be. -/
theorem Builds.makeable (builds : Builds declaration state grammar) :
    Lowering.Makeable declaration.definitions declaration.case := by
  obtain ⟨records, -, admissible⟩ := builds.records
  exact ⟨builds.distinct, builds.references, builds.acyclic, admissible, records.apart⟩

/-- A declaration that is built is built with its definitions in any order. -/
theorem exists_build_of_perm (built : declaration.build = .ok grammar)
    (perm : declaration.definitions.Perm definitions) :
    ∃ image, { declaration with definitions := definitions }.build = .ok image := by
  obtain ⟨state, builds⟩ := build_eq_ok_iff.1 built
  have makeable := builds.makeable.perm perm
  obtain ⟨other, made⟩ := makeable.exists_made
  obtain ⟨answered, -⟩ := Lowering.lowerDefinitions_records makeable.distinct made
  have targets : ∀ entry ∈ declaration.actions, ∃ element ∈ other.elements,
      element.name = entry.1 := by
    intro entry member
    have target := (attach_succeeds_iff _ _).1 ⟨_, builds.attached⟩ entry member
    obtain ⟨request, asked, named⟩ := (builds.records.1.exists_name_iff _).1 target
    exact (answered.exists_name_iff _).2
      ⟨request, (perm.flatMap_right _).subset asked, named⟩
  obtain ⟨actions, attached⟩ := (attach_succeeds_iff declaration.actions []).2 targets
  let image : Grammar :=
    { elements := other.elements
      root := (other.bound.lookup declaration.goal).getD 0
      actions
      case := declaration.case }
  exact ⟨image, build_eq_ok_iff.2 ⟨other, makeable.distinct, (perm.map _).subset builds.goal,
    makeable.references, makeable.acyclic, made, attached, rfl, rfl, rfl⟩⟩

/-- Grammars of one declaration with its definitions in two orders are counterparts, if no derived
name is asked for with two shapes; and a name leads to where the place that it led to is brought. -/
theorem Builds.counterpart (builds : Builds declaration state grammar)
    (permuted : Builds { declaration with definitions := definitions } other image)
    (perm : definitions.Perm declaration.definitions) (unambiguous : declaration.Unambiguous) :
    (∀ name, image.lookup? name =
      (grammar.lookup? name).map (renumbering grammar.elements image.elements)) ∧
    grammar.Counterpart (renumbering grammar.elements image.elements) image := by
  have records := builds.records.1
  have others := permuted.records.1.perm (perm.flatMap_right _)
  have renumbered := records.renumbered others unambiguous
  have lookups := elementIndex?_renumbering (records.names_perm others)
  rw [← builds.elements, ← permuted.elements] at renumbered lookups
  refine ⟨lookups, renumbered, ?_, fun id => ?_, permuted.case.trans builds.case.symm⟩
  · have goal := lookups declaration.goal
    have root := builds.lookup?_goal
    rw [Grammar.lookup?] at root
    rw [root] at goal
    exact Option.some.inj (permuted.lookup?_goal.symm.trans goal)
  · have first := builds.attached
    have second := permuted.attached
    rw [← builds.elements] at first
    rw [← permuted.elements] at second
    -- An action belongs to the place that its name leads to, and names lead where they are brought.
    have targets : ∀ name,
        (elementIndex? image.elements name ==
          some (renumbering grammar.elements image.elements id)) =
        (elementIndex? grammar.elements name == some id) := by
      intro name
      rw [Bool.eq_iff_iff, beq_iff_eq, beq_iff_eq, lookups]
      cases elementIndex? grammar.elements name with
      | none => simp
      | some place => simp [renumbered.injective.eq_iff]
    rw [Grammar.action?, Grammar.action?, lookup_attach first, lookup_attach second]
    simp only [targets, List.lookup_nil]

end Declaration

/-- What a grammar binds to a name. -/
structure Binding where
  /-- Whether the name was given, and not derived. -/
  explicit : Bool
  /-- Whether some match takes no tokens. -/
  nullable : Bool
  /-- What the element is made of, with its children told by their names. -/
  shape : Shape
deriving Repr, DecidableEq

/-- What the element with a name is. -/
def Grammar.binding? (grammar : Grammar) (name : String) : Option Binding :=
  (grammar.lookup? name).bind fun id => grammar.elements[id]?.map fun element =>
    ⟨element.explicit, element.nullable, element.kind.shape grammar.nameOf⟩

/-- A kind that is renumbered has the shape of the kind with the names brought back. -/
theorem Kind.shape_renumber (shift : Nat → Nat) (nameOf : Nat → String) (kind : Kind) :
    (kind.renumber shift).shape nameOf = kind.shape (nameOf ∘ shift) := by
  cases kind with
  | sequence children => exact congrArg Shape.sequence List.map_map
  | choice children => exact congrArg Shape.choice List.map_map
  | _ => rfl

/-- Counterparts bind the same to each name. -/
theorem Grammar.Counterpart.binding?_eq {shift : Nat → Nat} {grammar image : Grammar}
    (counterpart : grammar.Counterpart shift image)
    (lookups : ∀ name, image.lookup? name = (grammar.lookup? name).map shift) (name : String) :
    image.binding? name = grammar.binding? name := by
  have names : image.nameOf ∘ shift = grammar.nameOf :=
    funext fun id => counterpart.elements.elementName_eq id
  rw [binding?, binding?, lookups]
  cases grammar.lookup? name with
  | none => rfl
  | some id =>
    rw [Option.map_some, Option.bind_some, Option.bind_some, counterpart.elements.getElem?_eq,
      Option.map_map]
    refine Option.map_congr fun element _ => ?_
    simp only [Function.comp, Element.renumber, Kind.shape_renumber, names]

/-- Definition order does not matter. A declaration in which no derived name is asked for with two
shapes is built exactly when it is with its definitions in another order. The two grammars then bind
the same to each name, one is the other with its elements renumbered, and under all options the
parses of all tokens are the same, in the same order and with the same results, but for the places
of elements in their trees. -/
theorem Declaration.definition_order_does_not_matter {declaration : Declaration}
    (unambiguous : declaration.Unambiguous) {definitions : List Definition}
    (perm : definitions.Perm declaration.definitions) :
    ((∃ grammar, declaration.build = .ok grammar) ↔
      ∃ image, { declaration with definitions := definitions }.build = .ok image) ∧
    ∀ grammar image, declaration.build = .ok grammar →
      { declaration with definitions := definitions }.build = .ok image →
      (∀ name, image.binding? name = grammar.binding? name) ∧
      ∃ shift, grammar.Counterpart shift image ∧
        (∀ name, image.lookup? name = (grammar.lookup? name).map shift) ∧
        ∀ options tokenizer tokens,
          (Parser.mk image options tokenizer).parseAllTokens tokens =
            ((Parser.mk grammar options tokenizer).parseAllTokens tokens).map
              (Outcome.renumber shift) := by
  refine ⟨⟨?_, ?_⟩, fun grammar image built permuted => ?_⟩
  · rintro ⟨grammar, built⟩
    exact exists_build_of_perm built perm.symm
  · rintro ⟨image, built⟩
    have restored := exists_build_of_perm built perm
    exact restored
  · obtain ⟨state, builds⟩ := build_eq_ok_iff.1 built
    obtain ⟨other, others⟩ := build_eq_ok_iff.1 permuted
    obtain ⟨lookups, counterpart⟩ := builds.counterpart others perm unambiguous
    exact ⟨counterpart.binding?_eq lookups, _, counterpart, lookups, counterpart.parseAllTokens⟩

/-- A bell that may be rung or called for, with an action that fails. -/
def bellDeclaration : Declaration where
  definitions := [
    ⟨"GOAL", .sequence [.rule "ACT", .rule "THING"]⟩,
    ⟨"ACT", .choice [.literals ["ring"], .literals ["call for"]]⟩,
    ⟨"THING", .literals ["bell"]⟩]
  case := .sensitive
  actions := [("THING", fun _ => .error "no bell")]

/-- With the definitions turned round the thing is made before the act, and the act gets another
place; but it is bound to the same, and the parse of a command is the same but for places. -/
theorem Declaration.bells_may_be_defined_backwards : ∃ grammar image,
    bellDeclaration.build = .ok grammar ∧
    { bellDeclaration with definitions := bellDeclaration.definitions.reverse }.build = .ok image ∧
    grammar.lookup? "ACT" = some 2 ∧ image.lookup? "ACT" = some 3 ∧
    image.binding? "ACT" = grammar.binding? "ACT" ∧
    ∃ outcome shift,
      (Parser.mk grammar {} .words).parseAllTokens (Token.ofWords ["ring", "bell"]) = [outcome] ∧
      (Parser.mk image {} .words).parseAllTokens (Token.ofWords ["ring", "bell"]) =
        [outcome.renumber shift] := by
  obtain ⟨grammar, built, read⟩ : ∃ grammar, bellDeclaration.build = .ok grammar ∧
      (grammar.lookup? "ACT", ((Parser.mk grammar {} .words).parseAllTokens
        (Token.ofWords ["ring", "bell"])).length) = (some 2, 1) := exists_built (by decide +kernel)
  obtain ⟨image, permuted, moved⟩ : ∃ image,
      { bellDeclaration with definitions := bellDeclaration.definitions.reverse }.build =
        .ok image ∧ image.lookup? "ACT" = some 3 := exists_built (by decide +kernel)
  obtain ⟨place, single⟩ := Prod.mk.inj read
  obtain ⟨outcome, parses⟩ := List.length_eq_one_iff.1 single
  obtain ⟨-, same⟩ := definition_order_does_not_matter
    (show bellDeclaration.Unambiguous by decide +kernel)
    (List.reverse_perm bellDeclaration.definitions)
  obtain ⟨bindings, shift, -, -, others⟩ := same grammar image built permuted
  refine ⟨grammar, image, built, permuted, place, moved, bindings "ACT", outcome, shift, parses, ?_⟩
  rw [others, parses, List.map_singleton]

end Utterance

import Mathlib.Data.List.Infix
import Utterance.Proofs.Admission

/-!
# Names that are used and not given

A declaration with a name that is used and not given is rejected before anything is made of it, and
no later step blames such a name (`Lowering.Spares`). What is reported is the first definition that
uses one and the first such name in it (`firstUndefined?_eq_some_iff`). The name stands in the
definition's text wherever the expression uses it (`Expr.isInfix_render`), and the span of the
report is the first place where it stands in the whole text (`Source.exists_find_eq`). That is a
place in the expression unless the name stands earlier already, in the name of the definition itself
or across the sign behind it (`undefined_name_is_reported`).
-/
namespace Utterance

/-! ## The place of a name in a text -/

namespace Source

/-- Some characters stand in others at an offset: those before them take up that many bytes. -/
def StandsIn (needle text : List Char) (offset : Nat) : Prop :=
  ∃ before, before ++ needle <+: text ∧ (String.ofList before).utf8ByteSize = offset

/-- Some text stands in a source at an offset in bytes. -/
def StandsAt (source : Source) (text : String) (offset : Nat) : Prop :=
  ∃ before after, source.content = before ++ text ++ after ∧ before.utf8ByteSize = offset

variable {needle text : List Char} {offset : Nat}

/-- The bytes of a text are those of its first character and those of the rest. -/
theorem utf8ByteSize_ofList_cons (char : Char) (rest : List Char) :
    (String.ofList (char :: rest)).utf8ByteSize
      = char.utf8Size + (String.ofList rest).utf8ByteSize := by
  have split : String.ofList (char :: rest) = String.singleton char ++ String.ofList rest := by
    rw [String.singleton_eq_ofList, ← String.ofList_append, List.singleton_append]
  rw [split, String.utf8ByteSize_append, String.utf8ByteSize_singleton]

/-- Characters stand at the start of a text, or in what comes after its first character. -/
theorem standsIn_cons_iff {char : Char} :
    StandsIn needle (char :: text) offset ↔
      (needle <+: char :: text ∧ offset = 0) ∨
        ∃ further, StandsIn needle text further ∧ offset = char.utf8Size + further := by
  constructor
  · rintro ⟨before, stands, rfl⟩
    cases before with
    | nil => exact Or.inl ⟨stands, rfl⟩
    | cons first before =>
      rcases List.cons_prefix_cons.1 stands with ⟨rfl, inside⟩
      exact Or.inr ⟨_, ⟨before, inside, rfl⟩, utf8ByteSize_ofList_cons first before⟩
  · rintro (⟨stands, rfl⟩ | ⟨_, ⟨before, inside, rfl⟩, rfl⟩)
    · exact ⟨[], stands, rfl⟩
    · have stands : char :: before ++ needle <+: char :: text :=
        List.cons_prefix_cons.2 ⟨rfl, inside⟩
      exact ⟨char :: before, stands, utf8ByteSize_ofList_cons char before⟩

/-- An offset that is found is the first one at which the characters stand. -/
theorem standsIn_of_offsetOf? (found : offsetOf? needle text = some offset) :
    StandsIn needle text offset ∧ ∀ other, StandsIn needle text other → offset ≤ other := by
  induction text generalizing offset with
  | nil =>
    unfold offsetOf? at found
    by_cases empty : needle.isEmpty = true
    · rw [if_pos empty] at found
      have start : 0 = offset := Option.some.inj found
      have nothing : needle = [] := List.isEmpty_iff.1 empty
      rw [← start, nothing]
      exact ⟨⟨[], List.nil_prefix, rfl⟩, fun _ _ => Nat.zero_le _⟩
    · rw [if_neg empty] at found
      exact absurd found.symm (Option.some_ne_none offset)
  | cons char rest hypothesis =>
    unfold offsetOf? at found
    by_cases here : needle.isPrefixOf (char :: rest) = true
    · rw [if_pos here] at found
      have start : 0 = offset := Option.some.inj found
      have stands : needle <+: char :: rest := List.isPrefixOf_iff_prefix.1 here
      rw [← start]
      exact ⟨standsIn_cons_iff.2 (Or.inl ⟨stands, rfl⟩), fun _ _ => Nat.zero_le _⟩
    · rw [if_neg here] at found
      rcases Option.map_eq_some_iff.1 found with ⟨further, later, rfl⟩
      rcases hypothesis later with ⟨stands, least⟩
      have inside : StandsIn needle (char :: rest) (char.utf8Size + further) :=
        standsIn_cons_iff.2 (Or.inr ⟨further, stands, rfl⟩)
      refine ⟨inside, fun other occurs => ?_⟩
      rcases standsIn_cons_iff.1 occurs with ⟨start, -⟩ | ⟨behind, later, rfl⟩
      · exact absurd (List.isPrefixOf_iff_prefix.2 start) here
      · exact Nat.add_le_add_left (least behind later) _

/-- An offset is found for characters that stand somewhere in a text. -/
theorem exists_offsetOf? (stands : needle <:+: text) :
    ∃ offset, offsetOf? needle text = some offset := by
  induction text with
  | nil =>
    have nothing : needle = [] := List.infix_nil.1 stands
    exact ⟨0, by rw [nothing]; rfl⟩
  | cons char rest hypothesis =>
    unfold offsetOf?
    by_cases here : needle.isPrefixOf (char :: rest) = true
    · exact ⟨0, if_pos here⟩
    · rcases List.infix_cons_iff.1 stands with start | later
      · exact absurd (List.isPrefixOf_iff_prefix.2 start) here
      · rcases hypothesis later with ⟨offset, found⟩
        exact ⟨char.utf8Size + offset, by rw [if_neg here, found, Option.map_some]⟩

/-- Text stands in a source where its characters stand in those of the source. -/
theorem standsAt_iff {source : Source} {name : String} :
    source.StandsAt name offset ↔ StandsIn name.toList source.content.toList offset := by
  constructor
  · rintro ⟨before, after, whole, size⟩
    have stands : before.toList ++ name.toList <+: source.content.toList := by
      rw [whole, String.toList_append, String.toList_append]
      exact List.prefix_append _ _
    exact ⟨before.toList, stands, by rw [String.ofList_toList]; exact size⟩
  · rintro ⟨before, ⟨after, whole⟩, size⟩
    refine ⟨String.ofList before, String.ofList after, ?_, size⟩
    apply String.toList_injective
    simp only [String.toList_append, String.toList_ofList, whole]

/-- Text that stands somewhere in a source is found at the first place where it stands. -/
theorem exists_find_eq {source : Source} {name : String}
    (stands : name.toList <:+: source.content.toList) :
    ∃ offset, source.find name = ⟨offset, name.utf8ByteSize⟩ ∧ source.StandsAt name offset ∧
      ∀ other, source.StandsAt name other → offset ≤ other := by
  rcases exists_offsetOf? stands with ⟨offset, found⟩
  rcases standsIn_of_offsetOf? found with ⟨occurs, least⟩
  have at_offset : source.find name = ⟨offset, name.utf8ByteSize⟩ := by
    unfold find
    rw [found]
  exact ⟨offset, at_offset, standsAt_iff.2 occurs,
    fun other elsewhere => least other (standsAt_iff.1 elsewhere)⟩

end Source

/-! ## What stands in the text of an expression -/

namespace Text

/-- What stands in a text stands in a text around it. -/
theorem isInfix_enclosed {needle : List Char} {text : String} (stands : needle <:+: text.toList)
    (opening closing : String) : needle <:+: (opening ++ text ++ closing).toList := by
  rw [String.toList_append, String.toList_append]
  exact stands.trans (List.infix_append _ _ _)

/-- What stands in one of some texts stands in the text that joins them. -/
theorem isInfix_intercalate {needle : List Char} {separator text : String} {texts : List String}
    (member : text ∈ texts) (stands : needle <:+: text.toList) :
    needle <:+: (separator.intercalate texts).toList := by
  rw [String.toList_intercalate]
  induction texts with
  | nil => exact absurd member List.not_mem_nil
  | cons first rest hypothesis =>
    cases rest with
    | nil =>
      rw [List.map_singleton, List.intercalate_singleton, ← List.mem_singleton.1 member]
      exact stands
    | cons next others =>
      rw [List.map_cons, List.map_cons, List.intercalate_cons_cons]
      rcases List.mem_cons.1 member with rfl | later
      · rw [List.append_assoc]
        exact stands.trans List.infix_append_left
      · exact (hypothesis later).trans List.infix_append_right

end Text

namespace Expr

mutual

/-- A name that an expression uses stands in its text. -/
theorem isInfix_render {name : String} :
    ∀ (expr : Expr), name ∈ expr.references → name.toList <:+: expr.render.toList
  | .literals _, uses => absurd uses List.not_mem_nil
  | .pattern _, uses => absurd uses List.not_mem_nil
  | .sequence children, uses => by
    rcases exists_isInfix_renderAll children uses with ⟨text, member, stands⟩
    have joined : name.toList <:+: (" + ".intercalate (renderAll children)).toList :=
      Text.isInfix_intercalate member stands
    exact Text.isInfix_enclosed joined "(" ")"
  | .choice children, uses => by
    rcases exists_isInfix_renderAll children uses with ⟨text, member, stands⟩
    have joined : name.toList <:+: (" | ".intercalate (renderAll children)).toList :=
      Text.isInfix_intercalate member stands
    exact Text.isInfix_enclosed joined "(" ")"
  | .optional inner, uses => Text.isInfix_enclosed (isInfix_render inner uses) "[" "]"
  | .repetition inner min max, uses => by
    have stands := Text.isInfix_enclosed (isInfix_render inner uses) "" (renderBounds min max)
    rwa [String.empty_append] at stands
  | .rule target, uses => by
    have same : name = target := List.mem_singleton.1 uses
    rw [same]
    exact List.infix_rfl
  | .named outer inner, uses => by
    have stands := Text.isInfix_enclosed (isInfix_render inner uses) (outer ++ ":") ""
    rwa [String.append_empty] at stands

/-- A name that expressions use stands in the text of one of them. -/
theorem exists_isInfix_renderAll {name : String} :
    ∀ (exprs : List Expr), name ∈ referencesOfAll exprs →
      ∃ text ∈ renderAll exprs, name.toList <:+: text.toList
  | [], uses => absurd uses List.not_mem_nil
  | child :: rest, uses => by
    rcases List.mem_append.1 uses with first | later
    · exact ⟨child.render, List.mem_cons_self, isInfix_render child first⟩
    · rcases exists_isInfix_renderAll rest later with ⟨text, member, stands⟩
      exact ⟨text, List.mem_cons_of_mem _ member, stands⟩

end

end Expr

/-! ## Which name is reported -/

namespace Declaration

variable {definitions : List Definition}

/-- A use of a name that is not given, with no such use before it. -/
structure FirstMissing (definitions : List Definition) (definition : Definition)
    (reference : String) : Prop where
  /-- Earlier definitions use names that are given. -/
  earlier : ∃ before after, definitions = before ++ definition :: after ∧
    ∀ other ∈ before, ∀ used ∈ other.expr.references, used ∈ definitions.map (·.name)
  /-- Names that the definition uses earlier are given. -/
  first : ∃ before after, definition.expr.references = before ++ reference :: after ∧
    ∀ used ∈ before, used ∈ definitions.map (·.name)
  /-- The name is not given. -/
  unknown : reference ∉ definitions.map (·.name)

/-- The first use of a name that is not given is one that a definition makes. -/
theorem FirstMissing.uses {definition : Definition} {reference : String}
    (missing : FirstMissing definitions definition reference) :
    definition ∈ definitions ∧ reference ∈ definition.expr.references := by
  rcases missing.earlier with ⟨before, after, whole, -⟩
  rcases missing.first with ⟨first, rest, split, -⟩
  constructor
  · rw [whole]
    exact List.mem_append_right before List.mem_cons_self
  · rw [split]
    exact List.mem_append_right first List.mem_cons_self

/-- What is looked up is the first use of a name that is not given. -/
theorem firstUndefined?_eq_some_iff {definition : Definition} {reference : String} :
    firstUndefined? definitions = some (definition, reference) ↔
      FirstMissing definitions definition reference := by
  unfold firstUndefined?
  simp only [List.findSome?_eq_some_iff, Option.map_eq_some_iff, Option.map_eq_none_iff,
    List.find?_eq_some_iff_append, List.find?_eq_none, Prod.mk.injEq]
  constructor
  · rintro ⟨before, found, after, whole, ⟨used, ⟨missing, first, rest, split, known⟩, same⟩, none⟩
    rw [← same.1, ← same.2]
    have earlier : ∀ other ∈ before, ∀ used ∈ other.expr.references,
        used ∈ definitions.map (·.name) := fun other member used uses => by
      simpa using none other member used uses
    have inside : ∀ used ∈ first, used ∈ definitions.map (·.name) := fun used uses => by
      simpa using known used uses
    exact ⟨⟨before, after, whole, earlier⟩, ⟨first, rest, split, inside⟩, by simpa using missing⟩
  · rintro ⟨⟨before, after, whole, earlier⟩, ⟨first, rest, split, inside⟩, missing⟩
    have none : ∀ other ∈ before, ∀ used ∈ other.expr.references,
        ¬ (!(definitions.map (·.name)).contains used) = true := fun other member used uses => by
      simpa using earlier other member used uses
    have known : ∀ used ∈ first, (!!(definitions.map (·.name)).contains used) = true :=
      fun used uses => by simpa using inside used uses
    exact ⟨before, definition, after, whole,
      ⟨reference, ⟨by simpa using missing, first, rest, split, known⟩, rfl, rfl⟩, none⟩

end Declaration

/-! ## No later step blames a name that is not given -/

namespace Lowering

/-- An outcome that is no complaint about a name which is not given. -/
def Spares {α : Type} (outcome : Except Diagnostic α) : Prop :=
  ∀ diagnostic, outcome = .error diagnostic →
    ∀ rule reference, diagnostic.fault ≠ .undefinedReference rule reference

variable {definitions : List Definition} {case : CasePolicy} {rule : String}
  {resolve : String → Step} {α β : Type}

/-- What ends well complains about nothing. -/
theorem spares_ok (value : α) : Spares (.ok value) := fun _ failure => by cases failure

/-- A complaint about something else is none about a name. -/
theorem spares_error {diagnostic : Diagnostic}
    (other : ∀ rule reference, diagnostic.fault ≠ .undefinedReference rule reference) :
    Spares (.error diagnostic : Except Diagnostic α) := by
  intro raised failure
  have same : diagnostic = raised := Except.error.inj failure
  rw [← same]
  exact other

/-- Two steps, one after the other, complain about no name if neither does. -/
theorem Spares.bind {first : Except Diagnostic α} {next : α → Except Diagnostic β}
    (early : Spares first) (late : ∀ value, first = .ok value → Spares (next value)) :
    Spares (first >>= next) := by
  cases first with
  | error diagnostic => exact spares_error (early diagnostic rfl)
  | ok value => exact late value rfl

/-- Adding an element complains about no name that is not given. -/
theorem intern_spares (given : Option String) (kind : Kind) (state : Lowering) :
    Spares (intern definitions rule given kind state) := by
  unfold intern
  simp only
  split
  · split
    · exact spares_ok _
    · exact spares_error fun _ _ => Fault.noConfusion
  · exact spares_ok _

/-- An element around another one complains about no name that is not given, if that one does not.
-/
theorem around_spares {kind : Nat → Kind} {inner : Step} (given : Option String)
    (early : ∀ state, Spares (inner state)) (state : Lowering) :
    Spares (around definitions rule given kind inner state) :=
  (early state).bind fun made _ => intern_spares given (kind made.1) made.2

/-- An element around children complains about no name that is not given, if the children do not. -/
theorem aroundAll_spares {kind : List Nat → Kind} {children : List Expr} {inner : Steps}
    (given : Option String) (early : ∀ state, Spares (inner state)) (state : Lowering) :
    Spares (aroundAll definitions rule given kind children inner state) := by
  unfold aroundAll
  split
  · exact spares_error fun _ _ => Fault.noConfusion
  · exact (early state).bind fun made _ => intern_spares given (kind made.1) made.2

mutual

/-- Making the element of an expression complains about no name that is not given, if making those
it uses does not. -/
theorem lower_spares :
    ∀ (expr : Expr) (given : Option String),
      (∀ target ∈ expr.references, ∀ state, Spares (resolve target state)) →
      ∀ state, Spares (lower definitions case resolve rule expr given state)
  | .named name inner, none, resolved => by
    rw [lower]
    exact lower_spares inner (some name) resolved
  | .named name inner, some outer, resolved => by
    rw [lower]
    exact around_spares (some outer) (lower_spares inner (some name) resolved)
  | .rule target, none, resolved => by
    rw [lower]
    exact resolved target (List.mem_singleton_self target)
  | .rule target, some outer, resolved => by
    rw [lower]
    exact around_spares (some outer) (resolved target (List.mem_singleton_self target))
  | .literals members, given, resolved => by
    intro state
    simp only [lower]
    split
    · exact spares_error fun _ _ => Fault.noConfusion
    · exact intern_spares given (.literals _) state
  | .pattern source, given, resolved => by
    intro state
    simp only [lower]
    split
    · exact spares_error fun _ _ => Fault.noConfusion
    · exact intern_spares given (.pattern _) state
  | .sequence children, given, resolved => by
    rw [lower]
    exact aroundAll_spares given (lowerAll_spares children resolved)
  | .choice children, given, resolved => by
    rw [lower]
    exact aroundAll_spares given (lowerAll_spares children resolved)
  | .optional inner, given, resolved => by
    rw [lower]
    exact around_spares given (lower_spares inner none resolved)
  | .repetition inner min max, given, resolved => by
    intro state
    simp only [lower]
    split
    · exact spares_error fun _ _ => Fault.noConfusion
    · exact around_spares given (lower_spares inner none resolved) state

/-- Making the elements of expressions complains about no name that is not given, if making those
they use does not. -/
theorem lowerAll_spares :
    ∀ (exprs : List Expr),
      (∀ target ∈ Expr.referencesOfAll exprs, ∀ state, Spares (resolve target state)) →
      ∀ state, Spares (lowerAll definitions case resolve rule exprs state)
  | [], resolved, state => spares_ok _
  | child :: rest, resolved, state => by
    rw [Expr.referencesOfAll, List.forall_mem_append] at resolved
    rw [lowerAll]
    exact (lower_spares child none resolved.1 state).bind fun made _ =>
      (lowerAll_spares rest resolved.2 made.2).bind fun others _ =>
        spares_ok (made.1 :: others.1, others.2)

end

/-- Making the element of a definition complains about no name that is not given, if every name used
is. -/
theorem lowerDefinition_spares
    (references : ∀ definition ∈ definitions, ∀ used ∈ definition.expr.references,
      used ∈ definitions.map (·.name))
    (depth : Nat) {name : String} (known : name ∈ definitions.map (·.name)) (state : Lowering) :
    Spares (lowerDefinition definitions case depth name state) := by
  induction depth generalizing name state with
  | zero => exact spares_error fun _ _ => Fault.noConfusion
  | succ depth hypothesis =>
    rw [lowerDefinition]
    split
    · exact spares_ok _
    · split
      · rename_i absent
        rcases List.mem_map.1 known with ⟨definition, listed, named⟩
        have different := List.find?_eq_none.1 absent definition listed
        exact absurd (beq_iff_eq.2 named) different
      · rename_i definition found
        have listed : definition ∈ definitions := List.mem_of_find?_eq_some found
        have resolved : ∀ target ∈ definition.expr.references, ∀ state,
            Spares (lowerDefinition definitions case depth target state) :=
          fun target uses => hypothesis (references definition listed target uses)
        exact (lower_spares definition.expr (some name) resolved state).bind
          fun made _ => spares_ok _

/-- Making the elements of definitions complains about no name that is not given, if every name used
is. -/
theorem lowerDefinitions_spares
    (references : ∀ definition ∈ definitions, ∀ used ∈ definition.expr.references,
      used ∈ definitions.map (·.name))
    (remaining : List Definition) (given : remaining ⊆ definitions) (state : Lowering) :
    Spares (lowerDefinitions definitions case remaining state) := by
  induction remaining generalizing state with
  | nil => exact spares_ok _
  | cons definition rest hypothesis =>
    rcases List.cons_subset.1 given with ⟨member, others⟩
    have known : definition.name ∈ definitions.map (·.name) := List.mem_map_of_mem member
    rw [lowerDefinitions]
    exact (lowerDefinition_spares references _ known state).bind
      fun made _ => hypothesis others made.2

end Lowering

namespace Declaration

variable {definitions : List Definition}

/-- The check for circles complains about no name that is not given. -/
theorem checkCycles_spares : Lowering.Spares (checkCycles definitions) := by
  unfold checkCycles
  split
  · exact Lowering.spares_ok _
  · exact Lowering.spares_error fun _ _ => Fault.noConfusion

/-- Attaching actions complains about no name that is not given. -/
theorem attach_spares {elements : List Element} (actions : List (String × Action))
    (attached : List (Nat × Action)) : Lowering.Spares (attach elements actions attached) := by
  induction actions generalizing attached with
  | nil => exact Lowering.spares_ok _
  | cons entry rest hypothesis =>
    rw [attach]
    split
    · exact Lowering.spares_error fun _ _ => Fault.noConfusion
    · exact hypothesis _

/-- A build complains about no name that is not given, if every name used is. -/
theorem build_spares {declaration : Declaration}
    (names : checkNames declaration.definitions declaration.goal = .ok ())
    (references : checkReferences declaration.definitions = .ok ()) :
    Lowering.Spares declaration.build := by
  have given := checkReferences_eq_ok_iff.1 references
  unfold build
  simp only [names, references]
  exact checkCycles_spares.bind fun _ _ =>
    (Lowering.lowerDefinitions_spares given _ (List.Subset.refl _) _).bind fun _ _ =>
      (attach_spares _ _).bind fun _ _ => Lowering.spares_ok _

/-- The complaint about a name that a definition uses and that is not given. -/
def undefinedName (definition : Definition) (reference : String) : Diagnostic :=
  (Diagnostic.ofGrammar (.undefinedReference definition.name reference) definition.source
    (definition.source.find reference)).withHelp (Diagnostic.undefinedReferenceHelp reference)

/-- A declaration whose names are given once, the start symbol among them, is rejected with a
complaint about a name exactly for the first use of a name that is not given. -/
theorem build_undefined_iff {declaration : Declaration} {diagnostic : Diagnostic}
    {rule reference : String}
    (names : checkNames declaration.definitions declaration.goal = .ok ())
    (blames : diagnostic.fault = .undefinedReference rule reference) :
    declaration.build = .error diagnostic ↔
      ∃ definition, FirstMissing declaration.definitions definition reference ∧
        diagnostic = undefinedName definition reference := by
  cases found : firstUndefined? declaration.definitions with
  | none =>
    have references : checkReferences declaration.definitions = .ok () := by
      rw [checkReferences, found]
    constructor
    · intro rejected
      exact absurd blames (build_spares names references diagnostic rejected rule reference)
    · rintro ⟨definition, missing, -⟩
      rw [firstUndefined?_eq_some_iff.2 missing] at found
      cases found
  | some use =>
    have rejection : declaration.build = .error (undefinedName use.1 use.2) := by
      unfold build
      simp only [names, checkReferences, found]
      rfl
    rw [rejection]
    constructor
    · intro same
      have raised : undefinedName use.1 use.2 = diagnostic := Except.error.inj same
      rw [← raised] at blames
      have named : use.2 = reference := (Fault.undefinedReference.inj blames).2
      rw [← named]
      exact ⟨use.1, firstUndefined?_eq_some_iff.1 found, raised.symm⟩
    · rintro ⟨definition, missing, rfl⟩
      have same := firstUndefined?_eq_some_iff.2 missing
      rw [found] at same
      rw [Option.some.inj same]

/-- A name that a definition uses stands in its text, in the expression. -/
theorem exists_standsAt_expr {definition : Definition} {reference : String}
    (uses : reference ∈ definition.expr.references) :
    ∃ offset, (definition.name ++ " = ").utf8ByteSize ≤ offset ∧
      definition.source.StandsAt reference offset := by
  rcases Expr.isInfix_render definition.expr uses with ⟨before, after, whole⟩
  have split : definition.expr.render =
      String.ofList before ++ reference ++ String.ofList after := by
    apply String.toList_injective
    simp only [String.toList_append, String.toList_ofList, whole]
  refine ⟨_, ?_, definition.name ++ " = " ++ String.ofList before, String.ofList after, ?_, rfl⟩
  · have longer : (definition.name ++ " = " ++ String.ofList before).utf8ByteSize =
        (definition.name ++ " = ").utf8ByteSize + (String.ofList before).utf8ByteSize :=
      String.utf8ByteSize_append
    omega
  · show definition.name ++ " = " ++ definition.expr.render = _
    rw [split]
    simp only [String.append_assoc]

/-- The complaint about the first use of a name that is not given points at the first place where
the name stands in the text of the definition. -/
theorem undefinedName_span {definition : Definition} {reference : String}
    (uses : reference ∈ definition.expr.references) :
    let span := (undefinedName definition reference).span
    definition.source.StandsAt reference span.offset ∧ span.length = reference.utf8ByteSize ∧
      ∀ other, definition.source.StandsAt reference other → span.offset ≤ other := by
  rcases exists_standsAt_expr uses with ⟨inside, -, occurs⟩
  rcases Source.standsAt_iff.1 occurs with ⟨before, stands, -⟩
  have somewhere : reference.toList <:+: definition.source.content.toList :=
    (List.infix_append_right).trans stands.isInfix
  rcases Source.exists_find_eq somewhere with ⟨offset, found, here, least⟩
  have span : (undefinedName definition reference).span = ⟨offset, reference.utf8ByteSize⟩ := found
  simp only [span]
  exact ⟨here, trivial, least⟩

/-- A declaration whose names are given once, the start symbol among them, is rejected because of a
name that is not given exactly if one of its definitions uses such a name. The complaint names the
first such definition and the first such name in it, and underlines that name in the text of the
definition, at the first place where it stands there. It stands in the expression, but what is
underlined lies in the expression only if the name stands nowhere earlier in the text. -/
theorem undefined_name_is_reported (declaration : Declaration)
    (distinct : (declaration.definitions.map (·.name)).Nodup)
    (goal : declaration.goal ∈ declaration.definitions.map (·.name)) :
    ((∃ definition ∈ declaration.definitions, ∃ used ∈ definition.expr.references,
        used ∉ declaration.definitions.map (·.name)) ↔
      ∃ diagnostic rule reference, declaration.build = .error diagnostic ∧
        diagnostic.fault = .undefinedReference rule reference) ∧
    ∀ diagnostic rule reference, declaration.build = .error diagnostic →
      diagnostic.fault = .undefinedReference rule reference →
      ∃ definition, FirstMissing declaration.definitions definition reference ∧
        definition.name = rule ∧
        diagnostic.source = ⟨rule, rule ++ " = " ++ definition.expr.render⟩ ∧
        diagnostic.source.StandsAt reference diagnostic.span.offset ∧
        diagnostic.span.length = reference.utf8ByteSize ∧
        (∀ other, diagnostic.source.StandsAt reference other → diagnostic.span.offset ≤ other) ∧
        (∃ inside, (rule ++ " = ").utf8ByteSize ≤ inside ∧
          diagnostic.source.StandsAt reference inside) ∧
        ((rule ++ " = ").utf8ByteSize ≤ diagnostic.span.offset ↔
          ∀ other, diagnostic.source.StandsAt reference other →
            (rule ++ " = ").utf8ByteSize ≤ other) := by
  have names := checkNames_eq_ok_iff.2 ⟨distinct, goal⟩
  constructor
  · constructor
    · rintro ⟨definition, listed, used, uses, unknown⟩
      cases found : firstUndefined? declaration.definitions with
      | none =>
        have references : checkReferences declaration.definitions = .ok () := by
          rw [checkReferences, found]
        exact absurd (checkReferences_eq_ok_iff.1 references definition listed used uses) unknown
      | some use =>
        have missing := firstUndefined?_eq_some_iff.1 found
        exact ⟨_, _, _, (build_undefined_iff names rfl).2 ⟨use.1, missing, rfl⟩, rfl⟩
    · rintro ⟨diagnostic, rule, reference, rejected, blames⟩
      rcases (build_undefined_iff names blames).1 rejected with ⟨definition, missing, -⟩
      exact ⟨definition, missing.uses.1, reference, missing.uses.2, missing.unknown⟩
  · intro diagnostic rule reference rejected blames
    rcases (build_undefined_iff names blames).1 rejected with ⟨definition, missing, rfl⟩
    have named : definition.name = rule := (Fault.undefinedReference.inj blames).1
    have inside := exists_standsAt_expr missing.uses.2
    rcases undefinedName_span missing.uses.2 with ⟨here, length, least⟩
    rw [← named]
    refine ⟨definition, missing, rfl, rfl, here, length, least, inside, ?_⟩
    constructor
    · intro behind other occurs
      exact behind.trans (least other occurs)
    · intro none
      exact none _ here

/-- A phrase under a name, and in it a name that is not given. -/
def phrase (name : String) : Definition :=
  ⟨name, .sequence [.literals ["the"], .rule "light"]⟩

/-- A declaration that uses a phrase with a name that is not given. -/
def phraseDeclaration (name : String) : Declaration where
  definitions := [⟨"GOAL", .rule name⟩, phrase name]

/-- In a definition called `lamps` the name `light` is underlined where the expression uses it. -/
theorem light_is_underlined_in_lamps :
    let declaration := phraseDeclaration "lamps"
    (declaration.definitions.map (·.name)).Nodup ∧
    declaration.goal ∈ declaration.definitions.map (·.name) ∧
    ∃ diagnostic, declaration.build = .error diagnostic ∧
      diagnostic.fault = .undefinedReference "lamps" "light" ∧ diagnostic.span = ⟨19, 5⟩ ∧
      ∀ other, diagnostic.source.StandsAt "light" other → "lamps = ".utf8ByteSize ≤ other := by
  have distinct : ((phraseDeclaration "lamps").definitions.map (·.name)).Nodup := by decide
  have goal : (phraseDeclaration "lamps").goal ∈
      (phraseDeclaration "lamps").definitions.map (·.name) := by decide
  have rejected : (phraseDeclaration "lamps").build =
      .error (undefinedName (phrase "lamps") "light") := rfl
  have span : (undefinedName (phrase "lamps") "light").span = ⟨19, 5⟩ := by decide +kernel
  have report := (undefined_name_is_reported (phraseDeclaration "lamps") distinct goal).2 _ "lamps"
    "light" rejected rfl
  rcases report with ⟨definition, -, -, -, -, -, -, -, inside⟩
  have bound : ("lamps" ++ " = ").utf8ByteSize ≤
      (undefinedName (phrase "lamps") "light").span.offset := by
    rw [span]
    decide
  exact ⟨distinct, goal, _, rejected, rfl, span, inside.1 bound⟩

/-- In a definition called `lights` the name `light` is underlined in the name of the definition,
although the expression uses it. -/
theorem light_is_underlined_in_the_name_lights :
    let declaration := phraseDeclaration "lights"
    (declaration.definitions.map (·.name)).Nodup ∧
    declaration.goal ∈ declaration.definitions.map (·.name) ∧
    ∃ diagnostic, declaration.build = .error diagnostic ∧
      diagnostic.fault = .undefinedReference "lights" "light" ∧
      diagnostic.source.content = "lights = (\x7b\"the\"\x7d + light)" ∧
      diagnostic.span = ⟨0, 5⟩ ∧ ¬ "lights = ".utf8ByteSize ≤ diagnostic.span.offset := by
  have rejected : (phraseDeclaration "lights").build =
      .error (undefinedName (phrase "lights") "light") := rfl
  have span : (undefinedName (phrase "lights") "light").span = ⟨0, 5⟩ := by decide +kernel
  have content : (undefinedName (phrase "lights") "light").source.content =
      "lights = (\x7b\"the\"\x7d + light)" := by decide +kernel
  refine ⟨by decide, by decide, _, rejected, rfl, content, span, ?_⟩
  rw [span]
  decide

end Declaration

end Utterance

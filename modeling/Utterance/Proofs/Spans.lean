import Utterance.Parser
import Utterance.Proofs.Trees
import Utterance.Result.Calls

/-!
# Spans of a derivation

What a span contributes to a result depends on the kind of its element: a terminal has a text, an
element with a series of children has a map, and one that only chooses has what its child has.
`Derivation.induction_on_kind` is induction over derivations along these three kinds, and every
parse is one of a derivation (`Parser.exists_derivation`).

Every span inside a derivation is a derivation (`Derivation.of_mem_postorder`), and all spans inside
one that is empty are empty (`Derivation.isEmpty_of_mem_postorder`). Spans that are picked from each
child in order are in order (`Chained.inOrder_flatMap`).
-/
namespace Utterance

namespace Kind

/-- Whether an element has the value of the child that matched. -/
def isTransparent : Kind → Bool
  | .choice _ => true
  | .optional _ => true
  | _ => false

/-- Whether an element has a map of the values of its children. -/
def isSeries : Kind → Bool
  | .sequence _ => true
  | .repetition _ _ _ => true
  | _ => false

end Kind

namespace MatchSpan

/-- Spans listed after what is inside them, each in turn. -/
theorem postorderAll_eq_flatMap (spans : List MatchSpan) :
    postorderAll spans = spans.flatMap postorder := by
  induction spans with
  | nil => rfl
  | cons span rest hypothesis => rw [postorderAll, hypothesis, List.flatMap_cons]

/-- A span stands after what is inside its children. -/
theorem postorder_eq (span : MatchSpan) :
    span.postorder = span.children.flatMap postorder ++ [span] := by
  cases span
  rw [postorder, postorderAll_eq_flatMap]

/-- A span is among those inside it. -/
theorem mem_postorder_self (span : MatchSpan) : span ∈ span.postorder := by
  rw [postorder_eq]
  simp

/-- An element contains what its children contain, and itself. -/
theorem postorder_around (elements : List Element) (element position stop : Nat)
    (children : List MatchSpan) :
    (around elements element position stop children).postorder =
      children.flatMap postorder ++ [around elements element position stop children] :=
  postorder_eq _

/-- An element has the leaves of its children. -/
@[simp] theorem leaves_around (elements : List Element) (element position stop : Nat)
    (children : List MatchSpan) :
    (around elements element position stop children).leaves = children.flatMap leaves := by
  rw [around, leaves, leavesOfAll_eq_flatMap]

/-- A span without leaves covers nothing. -/
theorem covered_eq_nil_iff (span : MatchSpan) : span.covered = [] ↔ span.leaves = [] := by
  rw [covered, List.map_eq_nil_iff]

/-- Whether spans from a position on cover tokens and follow one another, up to a stop at most. -/
def InOrder : (position : Nat) → (spans : List MatchSpan) → (stop : Nat) → Prop
  | position, [], stop => position ≤ stop
  | position, span :: rest, stop =>
    position ≤ span.start ∧ span.start < span.stop ∧ InOrder span.stop rest stop

namespace InOrder

variable {position earlier middle stop : Nat} {spans left right : List MatchSpan}

/-- Spans in order go on from the position. -/
theorem le_stop (order : InOrder position spans stop) : position ≤ stop := by
  induction spans generalizing position with
  | nil => exact order
  | cons span rest hypothesis =>
    obtain ⟨after, filled, later⟩ := order
    have further := hypothesis later
    omega

/-- The position may be earlier. -/
theorem of_le (order : InOrder position spans stop) (before : earlier ≤ position) :
    InOrder earlier spans stop := by
  cases spans with
  | nil => exact Nat.le_trans before order
  | cons span rest => exact ⟨Nat.le_trans before order.1, order.2⟩

/-- Spans in order one after another. -/
theorem append (first : InOrder position left middle) (second : InOrder middle right stop) :
    InOrder position (left ++ right) stop := by
  induction left generalizing position with
  | nil => exact second.of_le first
  | cons span rest hypothesis => exact ⟨first.1, first.2.1, hypothesis first.2.2⟩

/-- Spans in order cover tokens between the position and the stop. -/
theorem forall_mem (order : InOrder position spans stop) :
    ∀ span ∈ spans, position ≤ span.start ∧ span.start < span.stop ∧ span.stop ≤ stop := by
  induction spans generalizing position with
  | nil => simp
  | cons first rest hypothesis =>
    obtain ⟨after, filled, later⟩ := order
    intro span member
    rcases List.mem_cons.1 member with rfl | member
    · exact ⟨after, filled, later.le_stop⟩
    · obtain ⟨behind, covers, within⟩ := hypothesis later span member
      exact ⟨by omega, covers, within⟩

/-- Spans in order do not overlap. -/
theorem pairwise (order : InOrder position spans stop) :
    spans.Pairwise fun left right => left.stop ≤ right.start := by
  induction spans generalizing position with
  | nil => exact .nil
  | cons span rest hypothesis =>
    exact .cons (fun other later => (order.2.2.forall_mem other later).1) (hypothesis order.2.2)

end InOrder

end MatchSpan

section

variable {grammar : Grammar} {budget : SkipBudget} {tokens : List Token}
  {element position stop : Nat} {span : MatchSpan}

/-- Spans that are picked from chosen items of a chain, in order and no further than the item, are
in order together. -/
theorem Chained.inOrder_flatMap {elements : List Nat} {spans : List MatchSpan}
    {chosen : MatchSpan → Bool} {pick : MatchSpan → List MatchSpan}
    (chained : Chained (fun _ position span stop => position ≤ stop ∧
      (chosen span = true → MatchSpan.InOrder position (pick span) stop))
      elements position spans stop) :
    MatchSpan.InOrder position ((spans.filter chosen).flatMap pick) stop := by
  induction chained with
  | nil position => exact Nat.le_refl position
  | @cons element position middle stop span elements spans first rest hypothesis =>
    cases picked : chosen span with
    | true =>
      rw [List.filter_cons_of_pos picked, List.flatMap_cons]
      exact (first.2 picked).append hypothesis
    | false =>
      rw [List.filter_cons_of_neg (by simp [picked])]
      exact hypothesis.of_le first.1

namespace Derivation

/-- A derivation is one of the element that its span names. -/
theorem element_eq (derivation : Derivation grammar budget tokens element position span stop) :
    span.element = element := by
  cases derivation <;> rfl

/-- A derivation that is not empty covers tokens from its position on and up to its stop, and one
that is empty stops at its position. -/
theorem bounds (grounded : Grounded grammar.case grammar.elements)
    (derivation : Derivation grammar budget tokens element position span stop) :
    span.stop = stop ∧ (span.isEmpty = true → stop = position) ∧
      (span.isEmpty = false → position ≤ span.start ∧ span.start < span.stop) := by
  have reads := derivation.reads grounded
  have ordered := reads.matched.ordered grounded
  obtain ⟨forward, hollow⟩ := reads.isEmpty_iff grounded
  refine ⟨reads.stop_eq, fun empty => ordered.stop_eq_iff.2 (hollow.1 empty), fun filled => ?_⟩
  have after := ordered.bounds.1
  have apart : span.start ≠ span.stop := by simpa [MatchSpan.isEmpty] using filled
  rw [reads.start_eq] at forward apart ⊢
  omega

/-- A derivation that is not empty is in order by itself. -/
theorem inOrder_singleton (grounded : Grounded grammar.case grammar.elements)
    (derivation : Derivation grammar budget tokens element position span stop)
    (filled : span.isEmpty = false) : MatchSpan.InOrder position [span] stop := by
  obtain ⟨last, -, bounds⟩ := derivation.bounds grounded
  exact ⟨(bounds filled).1, (bounds filled).2, Nat.le_of_eq last⟩

/-- A derivation stops at its position or later. -/
theorem le_stop (grounded : Grounded grammar.case grammar.elements)
    (derivation : Derivation grammar budget tokens element position span stop) :
    position ≤ stop :=
  ((derivation.reads grounded).matched.ordered grounded).le_stop

/-- Induction over derivations of grounded elements along the kinds of elements: what holds of a
terminal, of a span around a series of spans of which it holds, of a span around one span of which
it holds, and of an element that is left out, holds of every derivation. -/
theorem induction_on_kind (grounded : Grounded grammar.case grammar.elements)
    {motive : Nat → Nat → MatchSpan → Nat → Prop}
    (terminal : ∀ element position start stop kind,
      kindOf? grammar.elements element = some kind → kind.isTerminal = true →
      position ≤ start → start < stop →
      motive element position (.ofTerminal grammar.elements tokens element start stop) stop)
    (series : ∀ element elements position spans stop kind,
      kindOf? grammar.elements element = some kind → kind.isSeries = true →
      Chained (fun element position span stop =>
        Derivation grammar budget tokens element position span stop ∧
          motive element position span stop) elements position spans stop →
      motive element position (.around grammar.elements element position stop spans) stop)
    (transparent : ∀ element child position span stop kind,
      kindOf? grammar.elements element = some kind → kind.isTransparent = true →
      Derivation grammar budget tokens child position span stop →
      motive child position span stop →
      motive element position (.around grammar.elements element position stop [span]) stop)
    (omitted : ∀ element position kind,
      kindOf? grammar.elements element = some kind → kind.isTransparent = true →
      motive element position (.around grammar.elements element position position []) position)
    (derivation : Derivation grammar budget tokens element position span stop) :
    motive element position span stop := by
  induction element using Nat.strongRecOn generalizing position span stop with
  | ind element hypothesis =>
  cases derivation with
  | @terminal _ _ _ _ kind present after near covers =>
    refine terminal _ _ _ _ kind present ?_ after
      (covers.bounds (grounded.admissible _ _ present)).1
    cases kind with
    | literals _ | pattern _ => rfl
    | sequence _ | choice _ | optional _ | repetition _ _ _ => exact covers.elim
  | sequence present chained =>
    refine series _ _ _ _ _ _ present rfl (chained.imp fun child member _ _ _ inside => ?_)
    exact ⟨inside, hypothesis child (grounded.child_lt present member) inside⟩
  | choice present member inside =>
    exact transparent _ _ _ _ _ _ present rfl inside
      (hypothesis _ (grounded.child_lt present member) inside)
  | optional present inside =>
    exact transparent _ _ _ _ _ _ present rfl inside
      (hypothesis _ (grounded.child_lt present List.mem_cons_self) inside)
  | omitted present => exact omitted _ _ _ present rfl
  | repetition present filled few enough chained =>
    refine series _ _ _ _ _ _ present rfl (chained.imp fun child member _ _ _ inside => ?_)
    obtain rfl := List.eq_of_mem_replicate member
    exact ⟨inside, hypothesis child (grounded.child_lt present List.mem_cons_self) inside⟩

/-- Every span inside a derivation is a derivation of its element. -/
theorem of_mem_postorder (grounded : Grounded grammar.case grammar.elements)
    (derivation : Derivation grammar budget tokens element position span stop) :
    ∀ inner ∈ span.postorder, ∃ origin, Derivation grammar budget tokens inner.element origin inner
      inner.stop := by
  have itself : ∀ {element position span stop},
      Derivation grammar budget tokens element position span stop →
      ∃ origin, Derivation grammar budget tokens span.element origin span span.stop := by
    intro element position span stop whole
    obtain rfl := whole.element_eq
    obtain ⟨rfl, -⟩ := whole.bounds grounded
    exact ⟨position, whole⟩
  refine Derivation.induction_on_kind (motive := fun element position span stop =>
    Derivation grammar budget tokens element position span stop → ∀ inner ∈ span.postorder,
      ∃ origin, Derivation grammar budget tokens inner.element origin inner inner.stop)
    grounded ?_ ?_ ?_ ?_ derivation derivation
  · intro element position start stop kind present direct after filled whole inner member
    obtain rfl := List.mem_singleton.1 member
    exact itself whole
  · intro element elements position spans stop kind present listed chained whole inner member
    rw [MatchSpan.postorder_around, List.mem_append, List.mem_flatMap, List.mem_singleton] at member
    rcases member with ⟨child, listed, inside⟩ | rfl
    · have below : ∀ child ∈ spans, ∀ inner ∈ child.postorder,
          ∃ origin, Derivation grammar budget tokens inner.element origin inner inner.stop :=
        chained.forall_mem fun _ _ _ _ both => both.2 both.1
      exact below child listed inner inside
    · exact itself whole
  · intro element child position span stop kind present chooses below hypothesis whole inner member
    rw [MatchSpan.postorder_around, List.flatMap_singleton, List.mem_append,
      List.mem_singleton] at member
    rcases member with inside | rfl
    · exact hypothesis below inner inside
    · exact itself whole
  · intro element position kind present chooses whole inner member
    rw [MatchSpan.postorder_around, List.flatMap_nil, List.nil_append,
      List.mem_singleton] at member
    obtain rfl := member
    exact itself whole

/-- The leaves of a span inside a derivation are leaves of the derivation. -/
theorem leaves_subset (grounded : Grounded grammar.case grammar.elements)
    (derivation : Derivation grammar budget tokens element position span stop) :
    ∀ inner ∈ span.postorder, inner.leaves ⊆ span.leaves := by
  refine Derivation.induction (motive := fun _ _ span _ =>
    ∀ inner ∈ span.postorder, inner.leaves ⊆ span.leaves) grounded ?_ ?_ derivation
  · intro element position start stop inner member
    obtain rfl := List.mem_singleton.1 member
    exact List.Subset.refl _
  · intro element elements position spans stop chained inner member
    rw [MatchSpan.postorder_around, List.mem_append, List.mem_flatMap, List.mem_singleton] at member
    rcases member with ⟨child, listed, inside⟩ | rfl
    · have below : ∀ child ∈ spans, ∀ inner ∈ child.postorder, inner.leaves ⊆ child.leaves :=
        chained.forall_mem fun _ _ _ _ both => both.2
      rw [MatchSpan.leaves_around]
      refine List.Subset.trans (below child listed inner inside) fun leaf member => ?_
      exact List.mem_flatMap.2 ⟨child, listed, member⟩
    · exact List.Subset.refl _

/-- A span is empty when it has no leaves. -/
theorem isEmpty_iff (grounded : Grounded grammar.case grammar.elements)
    (derivation : Derivation grammar budget tokens element position span stop) :
    span.isEmpty = true ↔ span.leaves = [] := by
  rw [← span.covered_eq_nil_iff]
  exact ((derivation.reads grounded).isEmpty_iff grounded).2

/-- Every span inside an empty one is empty. -/
theorem isEmpty_of_mem_postorder (grounded : Grounded grammar.case grammar.elements)
    (derivation : Derivation grammar budget tokens element position span stop)
    (empty : span.isEmpty = true) : ∀ inner ∈ span.postorder, inner.isEmpty = true := by
  intro inner member
  obtain ⟨origin, inside⟩ := derivation.of_mem_postorder grounded inner member
  have fewer := derivation.leaves_subset grounded inner member
  rw [(derivation.isEmpty_iff grounded).1 empty] at fewer
  exact (inside.isEmpty_iff grounded).2 (List.subset_nil.1 fewer)

end Derivation

end

/-- A parse has a tree around a derivation of the start symbol, and the result of that tree. -/
theorem Parser.exists_derivation {parser : Parser}
    (grounded : Grounded parser.grammar.case parser.grammar.elements) {tokens : List Token}
    {outcome : Outcome} (member : outcome ∈ parser.parseAllTokens tokens) :
    ∃ position, outcome.tree = .ofRoot outcome.tree.root tokens ∧
      outcome.result = outcome.tree.result parser.grammar ∧
      Derivation parser.grammar parser.options.skipBudget tokens parser.grammar.root position
        outcome.tree.root outcome.tree.root.stop := by
  obtain ⟨tree, listed, rfl⟩ := List.mem_map.1 member
  have present : tree ∈ parser.grammar.trees parser.options tokens := by
    cases bound : parser.options.maxParses with
    | none => simpa [bound] using listed
    | some count =>
      rw [bound] at listed
      exact List.mem_of_mem_take listed
  obtain ⟨span, position, -, rfl, derivation⟩ :=
    Grammar.exists_derivation_of_mem_trees grounded present
  refine ⟨position, ?_, rfl, ?_⟩
  · simp [Outcome.ofTree]
  · simpa [Outcome.ofTree] using derivation

namespace Built

variable {grammar : Grammar} {span : MatchSpan} {kind : Kind}

/-- The spans that cover tokens contribute, each under its name. -/
theorem ofSpans_eq_map (grammar : Grammar) (spans : List MatchSpan) :
    ofSpans grammar spans =
      (spans.filter (!·.isEmpty)).map fun span => (span.name, ofSpan grammar span) := by
  induction spans with
  | nil => rfl
  | cons span rest hypothesis =>
    rw [ofSpans, hypothesis]
    cases empty : span.isEmpty <;> simp [empty]

/-- A terminal contributes its text. -/
theorem assemble_of_isTerminal (present : kindOf? grammar.elements span.element = some kind)
    (direct : kind.isTerminal = true) (inner : List (String × Built)) :
    assemble grammar span inner = ⟨.text (span.text.getD ""), [], false, []⟩ := by
  unfold assemble
  rw [show grammar.elements[span.element]?.map Element.kind = some kind from present]
  cases kind with
  | literals _ | pattern _ => rfl
  | sequence _ | choice _ | optional _ | repetition _ _ _ => cases direct

/-- An element with a series of children combines what they contribute. -/
theorem assemble_of_isSeries (present : kindOf? grammar.elements span.element = some kind)
    (series : kind.isSeries = true) (inner : List (String × Built)) :
    assemble grammar span inner =
      combine (grammar.elements[span.element]?.any (·.explicit)) inner := by
  unfold assemble
  rw [show grammar.elements[span.element]?.map Element.kind = some kind from present]
  cases kind with
  | sequence _ | repetition _ _ _ => rfl
  | literals _ | pattern _ | choice _ | optional _ => cases series

/-- An element that only chooses contributes what its child contributes. -/
theorem assemble_of_isTransparent (present : kindOf? grammar.elements span.element = some kind)
    (chooses : kind.isTransparent = true) (inner : List (String × Built)) :
    assemble grammar span inner = inner.head?.elim absent fun child =>
      wrap (grammar.elements[span.element]?.any (·.explicit)) child.1 child.2 := by
  unfold assemble
  rw [show grammar.elements[span.element]?.map Element.kind = some kind from present]
  cases kind with
  | choice _ | optional _ => cases inner <;> rfl
  | literals _ | pattern _ | sequence _ | repetition _ _ _ => cases chooses

end Built

/-- Commands to lights, one after another: which light, what to do, and perhaps a color. -/
def lightDeclaration : Declaration where
  definitions := [
    ⟨"GOAL", .repetition (.rule "CLAUSE") 1 none⟩,
    ⟨"CLAUSE", .sequence [.rule "LIGHT",
      .sequence [.choice [.literals ["on"], .literals ["off"]], .optional (.rule "COLOR")]]⟩,
    ⟨"COLOR", .literals ["red"]⟩,
    ⟨"LIGHT", .choice [.literals ["lamp"], .literals ["spot"]]⟩]
  case := .sensitive

/-- The same commands, where a command is told by its words and no color is known. -/
def tellingDeclaration : Declaration :=
  { lightDeclaration with
    actions := [("CLAUSE", fun value => .ok (.text value.words)),
      ("COLOR", fun _ => .error "unknown color")] }

/-- Two commands, with noise inside the first. -/
def lightSentence : List Token := Token.ofWords ["lamp", "on", "please", "red", "spot", "off"]

end Utterance

import Utterance.Proofs.Grounded
import Utterance.Search.Step

/-!
# Steps of related searches

A step asks for the candidates of children and goes on with what it gets; it does nothing else with
the monad it runs in. So if the answers to two ways of asking are related, by a relation that holds
of equal values and passes from programs to what goes on with their results (`Congruence`), the
steps are related as well (`Congruence.step`), and so are the searches for the start symbol.
-/
namespace Utterance

/-- Whether a relation between programs, possibly of two monads, holds of a value and itself, and
passes on to programs that go on in the same way. -/
structure Congruence {m n : Type → Type} [Monad m] [Monad n]
    (related : (α : Type) → m α → n α → Prop) : Prop where
  /-- A value is related to itself. -/
  pure : ∀ {α : Type} (value : α), related α (Pure.pure value) (Pure.pure value)
  /-- Related programs go on in related ways. -/
  bind : ∀ {α β : Type} {left : m α} {right : n α} {next : α → m β} {follow : α → n β},
    related α left right → (∀ value, related β (next value) (follow value)) →
      related β (left >>= next) (right >>= follow)

namespace Congruence

variable {m n : Type → Type} [Monad m] [Monad n] {related : (α : Type) → m α → n α → Prop}
  {solve : Nat → Nat → m (List Candidate)} {answer : Nat → Nat → n (List Candidate)}

/-- Loops are related if each round is. -/
theorem foldlM (congruence : Congruence related) {α β : Type} {round : β → α → m β}
    {other : β → α → n β} {items : List α} (first : β)
    (each : ∀ value, ∀ item ∈ items, related _ (round value item) (other value item)) :
    related _ (items.foldlM round first) (items.foldlM other first) := by
  induction items generalizing first with
  | nil => exact congruence.pure first
  | cons item rest hypothesis =>
    refine congruence.bind (each first item List.mem_cons_self) fun value => ?_
    exact hypothesis value fun value other member =>
      each value other (List.mem_cons_of_mem _ member)

/-- Extending chains is related if the answers for the child are. -/
theorem extendChains (congruence : Congruence related) {child : Nat}
    (asked : ∀ next, related _ (solve child next) (answer child next))
    (keep : Chain → Candidate → Bool) (chains : List Chain) :
    related _ (Search.extendChains solve child keep chains)
      (Search.extendChains answer child keep chains) :=
  congruence.foldlM [] fun _ chain _ => congruence.bind (asked chain.stop) fun _ =>
    congruence.pure _

/-- The levels of a repetition are related if the answers for its child are. -/
theorem levels (congruence : Congruence related) {inner : Nat}
    (asked : ∀ next, related _ (solve inner next) (answer inner next)) (least : Nat)
    (most : Option Nat) (fuel : Nat) :
    ∀ found, related _ (Search.levels solve inner least most fuel found)
      (Search.levels answer inner least most fuel found) := by
  induction fuel with
  | zero => exact fun found => congruence.pure found
  | succ fuel hypothesis =>
    intro found
    rw [Search.levels, Search.levels]
    split
    · exact congruence.pure found
    · refine congruence.bind (congruence.extendChains asked _ _) fun next => ?_
      split
      · exact congruence.pure found
      · exact hypothesis (next :: found)

/-- The step of an element is related if the answers for its children are. -/
theorem step (congruence : Congruence related) {search : Search} {element : Nat}
    (solve : Nat → Nat → m (List Candidate)) (answer : Nat → Nat → n (List Candidate))
    (asked : ∀ kind, kindOf? search.elements element = some kind → ∀ child ∈ kind.children,
      ∀ next, related _ (solve child next) (answer child next)) (position : Nat) :
    related _ (search.step solve element position) (search.step answer element position) := by
  have kinds : search.elements[element]?.map Element.kind = kindOf? search.elements element := rfl
  rw [Search.step, Search.step, kinds]
  cases present : kindOf? search.elements element with
  | none => exact congruence.pure []
  | some kind =>
    have children := asked kind present
    cases kind with
    | literals set => exact congruence.pure _
    | pattern matcher => exact congruence.pure _
    | sequence ids =>
      refine congruence.bind ?_ fun chains => congruence.pure _
      exact congruence.foldlM _ fun chains child member =>
        congruence.extendChains (children child member) _ chains
    | choice ids =>
      refine congruence.bind ?_ fun found => congruence.pure _
      exact congruence.foldlM _ fun found child member =>
        congruence.bind (children child member position) fun _ => congruence.pure _
    | optional inner =>
      exact congruence.bind (children inner List.mem_cons_self position) fun _ =>
        congruence.pure _
    | repetition inner min max =>
      exact congruence.bind (congruence.levels (children inner List.mem_cons_self) _ max _ _)
        fun _ => congruence.pure _

/-- The searches for the start symbol are related if the answers for it are. -/
theorem rootStep (congruence : Congruence related) (search : Search) {root : Nat}
    (solve : Nat → Nat → m (List Candidate)) (answer : Nat → Nat → n (List Candidate))
    (asked : ∀ next, related _ (solve root next) (answer root next)) (mode : ParseMode) :
    related _ (search.rootStep solve mode root) (search.rootStep answer mode root) := by
  refine congruence.bind (asked 0) fun first => ?_
  cases search.budget with
  | unlimited => exact congruence.bind (congruence.pure first) fun _ => congruence.pure _
  | limited count =>
    refine congruence.bind ?_ fun _ => congruence.pure _
    exact congruence.foldlM first fun _ position _ =>
      congruence.bind (asked position) fun _ => congruence.pure _

end Congruence

end Utterance

import Mathlib.Algebra.Ring.Nat
import Utterance.Proofs.Offer

/-!
# Leaves of a match

A match is told apart by the leaves of tokens that its terminals cover, from left to right. Leaves
are in order when none is empty and each starts where the one before stops or later. The extent of
such leaves fits them: what lies between first and last is consumed or noise, once each. Joining
keeps the order of preference (`atLeast_append`): better leaves before and better leaves after
give a better whole.
-/
namespace Utterance

/-- The tokens that one terminal covers. -/
structure Leaf where
  /-- The first token. -/
  start : Nat
  /-- The token after the last one. -/
  stop : Nat
deriving Repr, DecidableEq, Inhabited

namespace Leaf

/-- How many tokens a leaf covers. -/
def width (leaf : Leaf) : Nat := leaf.stop - leaf.start

/-- The extent of a match that was searched for from a position, given its leaves. -/
def extent (position : Nat) (leaves : List Leaf) : Extent where
  start := (leaves.head?.map start).getD position
  stop := (leaves.getLast?.map stop).getD position
  consumed := (leaves.map width).sum

/-- Whether leaves from a position on are not empty, stand in order and end with a stop. -/
def Ordered : (position : Nat) → (leaves : List Leaf) → (stop : Nat) → Prop
  | position, [], stop => stop = position
  | position, leaf :: rest, stop =>
    position ≤ leaf.start ∧ leaf.start < leaf.stop ∧ Ordered leaf.stop rest stop

/-- The extent without leaves is empty. -/
@[simp] theorem extent_nil (position : Nat) : extent position [] = ⟨position, position, 0⟩ := rfl

/-- The extent without leaves starts at its position. -/
theorem extent_nil_start (position : Nat) : (extent position []).start = position := rfl

/-- An extent starts with its first leaf. -/
@[simp] theorem extent_cons_start (position : Nat) (leaf : Leaf) (rest : List Leaf) :
    (extent position (leaf :: rest)).start = leaf.start := rfl

/-- An extent stops where its last leaf does. -/
theorem extent_append_stop (position : Nat) (left right : List Leaf) :
    (extent position (left ++ right)).stop = (extent (extent position left).stop right).stop := by
  cases right with
  | nil => simp [extent]
  | cons leaf rest => simp [extent, List.getLast?_append, List.getLast?_cons]

/-- The extent of leaves that are there does not depend on the position. -/
theorem extent_eq_of_ne_nil {leaves : List Leaf} (shown : leaves ≠ []) (position other : Nat) :
    extent position leaves = extent other leaves := by
  cases leaves with
  | nil => exact absurd rfl shown
  | cons leaf rest => simp [extent, List.getLast?_cons]

/-- Leaves together consume what they consume apart. -/
theorem extent_append_consumed (position middle : Nat) (left right : List Leaf) :
    (extent position (left ++ right)).consumed =
      (extent position left).consumed + (extent middle right).consumed := by
  simp only [extent, List.map_append, List.sum_append]

namespace Ordered

variable {position middle stop : Nat} {leaves left right : List Leaf}

/-- Leaves in order one after another. -/
theorem append (first : Ordered position left middle) (second : Ordered middle right stop) :
    Ordered position (left ++ right) stop := by
  induction left generalizing position with
  | nil =>
    obtain rfl : middle = position := first
    exact second
  | cons leaf rest hypothesis => exact ⟨first.1, first.2.1, hypothesis first.2.2⟩

/-- Leaves in order stop where their extent does, at the position or later. -/
theorem extent_stop (ordered : Ordered position leaves stop) :
    (extent position leaves).stop = stop := by
  induction leaves generalizing position with
  | nil => exact Eq.symm ordered
  | cons leaf rest hypothesis =>
    have tail := hypothesis ordered.2.2
    rw [← List.singleton_append, extent_append_stop]
    exact tail

/-- What leaves in order consume fits between their start and their stop. -/
theorem bounds (ordered : Ordered position leaves stop) :
    position ≤ (extent position leaves).start ∧
      (extent position leaves).start + (extent position leaves).consumed ≤ stop := by
  induction leaves generalizing position with
  | nil =>
    obtain rfl : stop = position := ordered
    exact ⟨Nat.le_refl _, Nat.le_refl _⟩
  | cons leaf rest hypothesis =>
    obtain ⟨after, filled, tail⟩ := ordered
    obtain ⟨later, fits⟩ := hypothesis tail
    refine ⟨after, ?_⟩
    have split : (extent position (leaf :: rest)).consumed =
        leaf.width + (extent leaf.stop rest).consumed := rfl
    rw [split, extent_cons_start, width]
    omega

/-- Leaves in order go on from the position. -/
theorem le_stop (ordered : Ordered position leaves stop) : position ≤ stop := by
  have bounds := ordered.bounds
  omega

/-- Leaves in order stop at their position only if there are none. -/
theorem stop_eq_iff (ordered : Ordered position leaves stop) :
    stop = position ↔ leaves = [] := by
  cases leaves with
  | nil => exact ⟨fun _ => rfl, fun _ => ordered⟩
  | cons leaf rest =>
    have further := ordered.2.2.le_stop
    have filled := ordered.2.1
    have after := ordered.1
    refine ⟨fun same => ?_, fun empty => absurd empty (by simp)⟩
    omega

/-- Of leaves in order with one stop, those are at least as good that consume more, or as much from
a later start. -/
theorem atLeast_iff {other : List Leaf} (ordered : Ordered position leaves stop)
    (rival : Ordered middle other stop) :
    (extent position leaves).AtLeast (extent middle other) ↔
      (extent middle other).consumed ≤ (extent position leaves).consumed ∧
        ((extent middle other).consumed = (extent position leaves).consumed →
          (extent middle other).start ≤ (extent position leaves).start) := by
  have bounds := ordered.bounds
  have limits := rival.bounds
  simp only [Extent.AtLeast, Extent.noise, ordered.extent_stop, rival.extent_stop]
  omega

/-- Better leaves before and better leaves after are better together. -/
theorem atLeast_append {formerLeft formerRight : List Leaf}
    (leftOrdered : Ordered position left middle) (rightOrdered : Ordered middle right stop)
    (formerLeftOrdered : Ordered position formerLeft middle)
    (formerRightOrdered : Ordered middle formerRight stop)
    (before : (extent position left).AtLeast (extent position formerLeft))
    (after : (extent middle right).AtLeast (extent middle formerRight)) :
    (extent position (left ++ right)).AtLeast (extent position (formerLeft ++ formerRight)) := by
  have whole := leftOrdered.append rightOrdered
  have former := formerLeftOrdered.append formerRightOrdered
  rw [whole.atLeast_iff former]
  rw [leftOrdered.atLeast_iff formerLeftOrdered] at before
  rw [rightOrdered.atLeast_iff formerRightOrdered] at after
  rw [extent_append_consumed position middle, extent_append_consumed position middle]
  refine ⟨by omega, fun equal => ?_⟩
  -- Both lists before are empty or neither is, since both stop at `middle`.
  by_cases nothing : middle = position
  · have leftNone := leftOrdered.stop_eq_iff.1 nothing
    have formerNone := formerLeftOrdered.stop_eq_iff.1 nothing
    subst nothing
    simp only [leftNone, formerNone, List.nil_append, extent_nil] at equal ⊢
    exact after.2 (by omega)
  · have startAppend : ∀ (first second : List Leaf), Ordered position first middle →
        (extent position (first ++ second)).start = (extent position first).start := by
      intro first second ordered
      cases first with
      | nil => exact absurd ordered nothing
      | cons leaf rest => rfl
    rw [startAppend left right leftOrdered, startAppend formerLeft formerRight formerLeftOrdered]
    exact before.2 (by omega)

end Ordered

end Leaf

end Utterance

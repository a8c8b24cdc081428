import Utterance.Proofs.Grounded
import Utterance.Search.Memo

/-!
# Searching with memory

`Yields` tells what a computation with memory gives and keeps. A search that remembers its answers
is sound for any property of answers that its step passes on from children to parents: the memory
then holds such answers only, whatever was asked before, and every answer taken from it is one
(`Search.candidates_yields`). A limit on the memory adds one condition, that the property holds of
no candidates, because that is what a search that is cut short answers.
-/
namespace Utterance

/-- Whether a computation that starts in a state of some kind gives a result with a property, and
ends in a state of that kind. -/
def Yields {σ α : Type} (kept : σ → Prop) (result : α → Prop) (program : StateM σ α) : Prop :=
  ∀ state, kept state → result (program.run state).1 ∧ kept (program.run state).2

namespace Yields

variable {σ α β : Type} {kept : σ → Prop} {result : α → Prop}

/-- A value is given as it is. -/
theorem pure {value : α} (holds : result value) : Yields kept result (Pure.pure value) :=
  fun _ start => ⟨holds, start⟩

/-- A computation may go on with what another one gives. -/
theorem bind {program : StateM σ α} {next : α → StateM σ β} {final : β → Prop}
    (first : Yields kept result program)
    (rest : ∀ value, result value → Yields kept final (next value)) :
    Yields kept final (program >>= next) := by
  intro state start
  obtain ⟨holds, middle⟩ := first state start
  exact rest _ holds _ middle

/-- A property of the result may be weakened. -/
theorem imp {program : StateM σ α} {final : α → Prop} (first : Yields kept result program)
    (weaker : ∀ value, result value → final value) : Yields kept final program := by
  intro state start
  obtain ⟨holds, last⟩ := first state start
  exact ⟨weaker _ holds, last⟩

/-- A loop keeps what each round passes on, told by the items that are done. -/
theorem foldlM {step : β → α → StateM σ β} {items : List α} {first : β}
    (holds : List α → β → Prop) (initial : holds [] first)
    (round : ∀ done item value, item ∈ items → holds done value →
      Yields kept (holds (done ++ [item])) (step value item)) :
    Yields kept (holds items) (items.foldlM step first) := by
  have general : ∀ (rest done : List α) (value : β), (∀ item ∈ rest, item ∈ items) →
      holds done value → Yields kept (holds (done ++ rest)) (rest.foldlM step value) := by
    intro rest
    induction rest with
    | nil =>
      intro done value inside start
      rw [List.append_nil, List.foldlM_nil]
      exact .pure start
    | cons item others hypothesis =>
      intro done value inside start
      rw [List.foldlM_cons]
      refine (round done item value (inside item List.mem_cons_self) start).bind ?_
      intro next middle
      rw [← List.singleton_append, ← List.append_assoc]
      refine hypothesis _ next (fun other member => ?_) middle
      exact inside other (List.mem_cons_of_mem _ member)
  exact general items [] first (fun _ member => member) initial

end Yields

namespace Memo

/-- Whether every answer that is remembered has a property. -/
def Holds (solved : Nat → Nat → List Candidate → Prop) (memo : Memo) : Prop :=
  ∀ element position found, memo.find? element position = some found → solved element position found

/-- An empty memory holds nothing. -/
theorem holds_empty (solved : Nat → Nat → List Candidate → Prop) : Holds solved {} :=
  fun _ _ _ found => absurd found (by simp [find?])

/-- An answer with the property may be remembered. -/
theorem Holds.insert {solved : Nat → Nat → List Candidate → Prop} {memo : Memo}
    (holds : memo.Holds solved) {element position : Nat} {found : List Candidate}
    (answer : solved element position found) :
    (memo.insert element position found).Holds solved := by
  intro other place recalled lookup
  simp only [find?, Memo.insert, List.lookup_cons] at lookup
  split at lookup
  · rename_i same
    obtain ⟨rfl, rfl⟩ := Prod.mk.inj (beq_iff_eq.1 same)
    obtain rfl := Option.some.inj lookup
    exact answer
  · exact holds other place recalled lookup

end Memo

namespace Search

/-- The memory after some pairs of element and position have been asked for. -/
def memoryAfter (search : Search) (limit : Option Nat) (asked : List (Nat × Nat)) : Memo :=
  asked.foldl (fun memo pair => ((search.candidates limit pair.1 pair.2).run memo).2) {}

/-- The candidates that are given for an element and a position after earlier questions. -/
def candidatesAfter (search : Search) (limit : Option Nat) (asked : List (Nat × Nat))
    (element position : Nat) : List Candidate :=
  ((search.candidates limit element position).run (search.memoryAfter limit asked)).1

variable {search : Search} {limit : Option Nat} {solved : Nat → Nat → List Candidate → Prop}

/-- Whether a property of answers passes from children to parents through the step of a search with
memory. -/
def Inherits (search : Search) (solved : Nat → Nat → List Candidate → Prop) : Prop :=
  ∀ (solve : Nat → Nat → StateM Memo (List Candidate)) element position,
    (∀ kind, kindOf? search.elements element = some kind → ∀ child ∈ kind.children, ∀ next,
      Yields (Memo.Holds solved) (solved child next) (solve child next)) →
    Yields (Memo.Holds solved) (solved element position) (search.step solve element position)

/-- Answers at a depth that suffices have every property that the step passes on. -/
theorem solve_yields (inherits : search.Inherits solved)
    (below : ∀ element kind, kindOf? search.elements element = some kind →
      ∀ child ∈ kind.children, child < element)
    (absent : ∀ element position, kindOf? search.elements element = none →
      solved element position [])
    (cut : limit ≠ none → ∀ element position, solved element position []) (depth : Nat) :
    ∀ element position, element < depth ∨ kindOf? search.elements element = none →
      Yields (Memo.Holds solved) (solved element position)
        (search.solve limit depth element position) := by
  induction depth with
  | zero =>
    intro element position reach
    exact .pure (absent element position (reach.resolve_left (Nat.not_lt_zero _)))
  | succ depth hypothesis =>
    intro element position reach memo holds
    have step := inherits (search.solve limit depth) element position (by
      intro kind present child member next
      apply hypothesis child next
      rcases reach with inside | missing
      · have earlier := below element kind present child member
        exact Or.inl (by omega)
      · exact absurd (missing.symm.trans present) (by simp))
    unfold solve
    simp only [StateT.run_bind, StateT.run_get, pure_bind]
    cases lookup : memo.find? element position with
    | some found => exact ⟨holds element position found lookup, holds⟩
    | none =>
      by_cases full : memo.isFull limit = true
      · rw [if_pos full]
        have limited : limit ≠ none := by
          rintro rfl
          simp [Memo.isFull] at full
        exact ⟨cut limited element position, holds⟩
      · rw [if_neg full]
        obtain ⟨answer, kept⟩ := step memo holds
        exact ⟨answer, kept.insert answer⟩

/-- Every answer of a search has every property that its step passes on, whatever is remembered. -/
theorem candidates_yields (inherits : search.Inherits solved)
    (below : ∀ element kind, kindOf? search.elements element = some kind →
      ∀ child ∈ kind.children, child < element)
    (absent : ∀ element position, kindOf? search.elements element = none →
      solved element position [])
    (cut : limit ≠ none → ∀ element position, solved element position [])
    (element position : Nat) :
    Yields (Memo.Holds solved) (solved element position)
      (search.candidates limit element position) := by
  apply solve_yields inherits below absent cut
  by_cases inside : element < search.elements.length
  · exact Or.inl inside
  · exact Or.inr (by simp [kindOf?, Nat.le_of_not_lt inside])

/-- The memory after earlier questions holds answers with the property only. -/
theorem memoryAfter_holds
    (yields : ∀ element position, Yields (Memo.Holds solved) (solved element position)
      (search.candidates limit element position))
    (asked : List (Nat × Nat)) : (search.memoryAfter limit asked).Holds solved := by
  have general : ∀ memo : Memo, memo.Holds solved →
      Memo.Holds solved (asked.foldl
        (fun memo pair => ((search.candidates limit pair.1 pair.2).run memo).2) memo) := by
    induction asked with
    | nil => exact fun memo holds => holds
    | cons pair rest hypothesis =>
      intro memo holds
      exact hypothesis _ (yields pair.1 pair.2 memo holds).2
  exact general {} (Memo.holds_empty solved)

end Search

end Utterance

import Utterance.Proofs.Congruence
import Utterance.Proofs.Memory

/-!
# How full a memory gets

While a search runs its memory only grows: entries are added in front, what is remembered of a pair
stays, and a memory without room stays as it is (`Memo.Grows`). So every answer that a search gave
can be read off its memory afterwards (`Search.solve_recalls`): a pair is remembered with its
answer, and a pair that was cut is never remembered.

The limit is tested when a pair is taken up, and the pair is remembered when it is solved, after its
children. The pairs that are under way when the last room is taken still get their entries, so a
memory exceeds its limit by as many entries as elements are nested (`Search.solve_size`).
-/
namespace Utterance

namespace Memo

variable {limit : Option Nat} {memo middle before after : Memo} {element position : Nat}
  {found : List Candidate}

/-- The candidates that are remembered for a pair, or none. -/
def recollect (memo : Memo) (element position : Nat) : List Candidate :=
  (memo.find? element position).getD []

/-- What is found for a pair is recalled. -/
theorem recollect_of_find? (remembered : memo.find? element position = some found) :
    memo.recollect element position = found := by
  rw [recollect, remembered, Option.getD_some]

/-- Nothing is recalled for a pair that is not found. -/
theorem recollect_of_find?_eq_none (missing : memo.find? element position = none) :
    memo.recollect element position = [] := by
  rw [recollect, missing, Option.getD_none]

/-- What has been remembered is found. -/
@[simp] theorem find?_insert_self (memo : Memo) (element position : Nat) (found : List Candidate) :
    (memo.insert element position found).find? element position = some found := by
  simp [find?, insert]

/-- What is found for a pair stays when another pair is remembered. -/
theorem find?_insert_of_ne {other place : Nat} (apart : (other, place) ≠ (element, position))
    (memo : Memo) (found : List Candidate) :
    (memo.insert element position found).find? other place = memo.find? other place := by
  rw [find?, insert, List.lookup_cons, beq_false_of_ne apart]
  rfl

/-- One more pair is remembered. -/
@[simp] theorem size_insert (memo : Memo) (element position : Nat) (found : List Candidate) :
    (memo.insert element position found).size = memo.size + 1 := rfl

/-- A limit leaves no room when as many pairs are remembered. -/
@[simp] theorem isFull_some (memo : Memo) (limit : Nat) :
    memo.isFull (some limit) = decide (limit ≤ memo.size) := rfl

/-- There is no room after a pair has been remembered, if there was none before. -/
theorem isFull_insert (full : memo.isFull limit = true) (element position : Nat)
    (found : List Candidate) : (memo.insert element position found).isFull limit = true := by
  cases limit with
  | none => exact absurd full (by simp [isFull])
  | some limit =>
    rw [isFull_some, decide_eq_true_eq] at full ⊢
    exact Nat.le_succ_of_le full

/-- Whether a memory may become another one while a search runs under a limit. -/
structure Grows (limit : Option Nat) (before after : Memo) : Prop where
  /-- Entries are added in front of those that are there. -/
  adds : before.entries <:+ after.entries
  /-- What is remembered of a pair stays. -/
  keeps : ∀ element position found, before.find? element position = some found →
    after.find? element position = some found
  /-- Where there is no room nothing is added. -/
  rests : before.isFull limit = true → after.entries = before.entries

namespace Grows

/-- A memory with the entries of another is what that may become. -/
theorem of_entries (same : after.entries = before.entries) : before.Grows limit after := by
  refine ⟨same ▸ List.suffix_refl _, fun element position found remembered => ?_, fun _ => same⟩
  rw [find?, same]
  exact remembered

/-- A memory may stay as it is. -/
theorem refl (memo : Memo) : memo.Grows limit memo := .of_entries rfl

/-- A memory may go on growing. -/
theorem trans (first : before.Grows limit middle) (second : middle.Grows limit after) :
    before.Grows limit after := by
  refine ⟨first.adds.trans second.adds, ?_, fun full => ?_⟩
  · exact fun element position found remembered =>
      second.keeps element position found (first.keeps element position found remembered)
  · have same := first.rests full
    rw [second.rests (by rwa [isFull, size, same]), same]

/-- A pair that is taken up where there is room may be remembered in the end. -/
theorem insert (grows : memo.Grows limit middle) (missing : memo.find? element position = none)
    (room : memo.isFull limit = false) (found : List Candidate) :
    memo.Grows limit (middle.insert element position found) := by
  refine ⟨grows.adds.trans (List.suffix_cons _ _), fun other place recalled remembered => ?_,
    fun full => absurd full (by simp [room])⟩
  rw [find?_insert_of_ne]
  · exact grows.keeps other place recalled remembered
  · intro same
    obtain ⟨rfl, rfl⟩ := Prod.mk.inj same
    exact absurd (missing.symm.trans remembered) (by simp)

end Grows

end Memo

/-- Keeping a state of some kind passes on to programs that go on in any way. -/
theorem Yields.congruence {σ : Type} (kept : σ → Prop) :
    Congruence fun (α : Type) (program : StateM σ α) (_ : Id α) =>
      Yields kept (fun _ => True) program where
  pure _ := .pure True.intro
  bind first rest := Yields.bind first fun value _ => rest value

/-- Whether the memory only grows in a computation, and the result is that of another computation
without memory, if the memory at the end is one that may become a given one. -/
def Recalls (limit : Option Nat) (target : Memo) (α : Type) (program : StateM Memo α)
    (pattern : Id α) : Prop :=
  ∀ memo, memo.Grows limit (program.run memo).2 ∧
    ((program.run memo).2.Grows limit target → (program.run memo).1 = pattern.run)

/-- A memory that may become a given one in the end may become it from any point before. -/
theorem Recalls.congruence (limit : Option Nat) (target : Memo) :
    Congruence (Recalls limit target) where
  pure _ memo := ⟨.refl memo, fun _ => rfl⟩
  bind {_ _ left right next follow} first rest := by
    intro memo
    obtain ⟨before, value⟩ := first memo
    obtain ⟨after, result⟩ := rest (left.run memo).1 (left.run memo).2
    refine ⟨before.trans after, fun grows => ?_⟩
    have same := value (after.trans grows)
    exact (result grows).trans (congrArg (fun value => (follow value).run) same)

namespace Search

variable {search : Search} {limit : Option Nat} {element position : Nat} {memo : Memo}

/-- A pair that is remembered is not searched for again. -/
theorem run_solve_of_find? (search : Search) (limit : Option Nat) (depth : Nat)
    {found : List Candidate} (remembered : memo.find? element position = some found) :
    (search.solve limit (depth + 1) element position).run memo = (found, memo) := by
  unfold solve
  simp only [StateT.run_bind, StateT.run_get, pure_bind, remembered]
  rfl

/-- Where there is no room, a pair that is not remembered is left unsolved. -/
theorem run_solve_of_full (search : Search) (depth : Nat)
    (missing : memo.find? element position = none) (full : memo.isFull limit = true) :
    (search.solve limit (depth + 1) element position).run memo =
      ([], { memo with exhausted := true }) := by
  unfold solve
  simp only [StateT.run_bind, StateT.run_get, pure_bind, missing, full]
  rfl

/-- Where there is room, a pair that is not remembered is solved and then remembered. -/
theorem run_solve_of_room (search : Search) (depth : Nat)
    (missing : memo.find? element position = none) (room : memo.isFull limit = false) :
    (search.solve limit (depth + 1) element position).run memo =
      (((search.step (search.solve limit depth) element position).run memo).1,
        ((search.step (search.solve limit depth) element position).run memo).2.insert element
          position ((search.step (search.solve limit depth) element position).run memo).1) := by
  rw [solve]
  simp only [StateT.run_bind, StateT.run_get, pure_bind, missing, room]
  rfl

/-- What is answered for a pair is what is remembered for it from then on. -/
theorem solve_recalls (below : ∀ element kind, kindOf? search.elements element = some kind →
      ∀ child ∈ kind.children, child < element) (limit : Option Nat) (target : Memo)
    (depth : Nat) : ∀ element < depth, ∀ position,
      Recalls limit target _ (search.solve limit depth element position)
        (told target.recollect element position) := by
  induction depth with
  | zero => exact fun element less => absurd less (Nat.not_lt_zero _)
  | succ depth hypothesis =>
    intro element less position memo
    cases lookup : memo.find? element position with
    | some found =>
      rw [run_solve_of_find? search limit depth lookup]
      refine ⟨.refl memo, fun grows => ?_⟩
      exact (Memo.recollect_of_find? (grows.keeps element position found lookup)).symm
    | none =>
      cases full : memo.isFull limit with
      | true =>
        rw [run_solve_of_full search depth lookup full]
        refine ⟨.of_entries rfl, fun grows => ?_⟩
        have missing : target.find? element position = none := by
          rw [Memo.find?, grows.rests full]
          exact lookup
        exact (Memo.recollect_of_find?_eq_none missing).symm
      | false =>
        have step := (Recalls.congruence limit target).step (search.solve limit depth) _
          (fun kind present child member => by
            have earlier := below element kind present child member
            exact hypothesis child (by omega)) position
        rw [run_solve_of_room search depth lookup full]
        refine ⟨(step memo).1.insert lookup full _, fun grows => ?_⟩
        have remembered := grows.keeps element position _ (Memo.find?_insert_self _ _ _ _)
        exact (Memo.recollect_of_find? remembered).symm

/-- Solving an element adds no entries past the limit but those of the elements that are nested in
it, by any measure of nesting. -/
theorem solve_size {limit : Nat} {nesting : Nat → Nat}
    (nested : ∀ element kind, kindOf? search.elements element = some kind →
      ∀ child ∈ kind.children, nesting child < nesting element) (depth : Nat) :
    ∀ element bound, limit + nesting element ≤ bound → ∀ position,
      Yields (fun memo => memo.size ≤ bound) (fun _ => True)
        (search.solve (some limit) depth element position) := by
  induction depth with
  | zero => exact fun _ _ _ _ => .pure True.intro
  | succ depth hypothesis =>
    intro element bound enough position memo small
    cases lookup : memo.find? element position with
    | some found =>
      rw [run_solve_of_find? search (some limit) depth lookup]
      exact ⟨True.intro, small⟩
    | none =>
      cases full : memo.isFull (some limit) with
      | true =>
        rw [run_solve_of_full search depth lookup full]
        exact ⟨True.intro, small⟩
      | false =>
        -- The entry of the element itself comes last, so its children have room for one less.
        have step := (Yields.congruence fun memo : Memo =>
            memo.size ≤ limit + nesting element - 1).step
          (search.solve (some limit) depth) (told fun _ _ => [])
          (fun kind present child member => hypothesis child _ (by
            have lower := nested element kind present child member
            omega)) position
        rw [Memo.isFull_some, decide_eq_false_iff_not] at full
        have before := (step memo (by omega)).2
        rw [run_solve_of_room search depth lookup (by simpa using full)]
        exact ⟨True.intro, (Nat.succ_le_succ before).trans (by omega)⟩

/-- In the search of a grammar children come before their parents. -/
theorem child_lt {grammar : Grammar} (grounded : Grounded grammar.case grammar.elements)
    (options : MatchOptions) (tokens : List Token) (element : Nat) (kind : Kind)
    (present : kindOf? (Search.of grammar options tokens).elements element = some kind) :
    ∀ child ∈ kind.children, child < element :=
  fun _ member => grounded.child_lt present member

end Search

namespace Grammar

/-- The memory at the end of a search for the roots. -/
def memory (grammar : Grammar) (options : MatchOptions) (tokens : List Token) : Memo :=
  let search := Search.of grammar options tokens
  ((search.rootStep (search.candidates options.maxMemoEntries) options.mode grammar.root).run {}).2

/-- A memory holds more entries than its limit allows by no more than elements are nested below the
root, by any measure of nesting. It never gives an entry up, so this is true of what it held at any
time before as well. Where the limit is reached, questions add nothing; so nothing is ever
remembered if no entries are allowed. -/
theorem memory_size_le_limit_add {declaration : Declaration} {grammar : Grammar}
    (built : declaration.build = .ok grammar) {options : MatchOptions} {limit : Nat}
    (limited : options.maxMemoEntries = some limit) (tokens : List Token) {nesting : Nat → Nat}
    (nested : ∀ parent child, grammar.Contains parent child → nesting child < nesting parent) :
    (grammar.memory options tokens).size ≤ limit + nesting grammar.root ∧
    (limit = 0 → (grammar.memory options tokens).entries = []) ∧
    ∀ memo : Memo, ∀ element < grammar.size, ∀ position,
      memo.entries <:+ (((Search.of grammar options tokens).candidates options.maxMemoEntries
        element position).run memo).2.entries ∧
      (limit ≤ memo.size → (((Search.of grammar options tokens).candidates options.maxMemoEntries
        element position).run memo).2.entries = memo.entries) := by
  have grounded := Declaration.grounded_of_build built
  have recalls := Search.solve_recalls (Search.child_lt grounded options tokens) (some limit) {}
    grammar.size
  obtain ⟨element, stands, -⟩ := (Declaration.represents_of_build built).root
  have present : grammar.root < grammar.size := (List.getElem?_eq_some_iff.1 stands).1
  rw [memory, limited]
  refine ⟨?_, ?_, ?_⟩
  · have inside : ∀ element kind,
        kindOf? (Search.of grammar options tokens).elements element = some kind →
        ∀ child ∈ kind.children, nesting child < nesting element :=
      fun parent kind present child member => nested parent child ⟨kind, present, member⟩
    have small := Search.solve_size inside grammar.size grammar.root (limit + nesting grammar.root)
      (Nat.le_refl _)
    exact ((Yields.congruence fun memo : Memo => memo.size ≤ limit + nesting grammar.root).rootStep
      _ _ (Search.told fun _ _ => []) small options.mode {} (Nat.zero_le _)).2
  · rintro rfl
    have grows := (Recalls.congruence (some 0) {}).rootStep (Search.of grammar options tokens) _ _
      (recalls grammar.root present) options.mode {}
    exact grows.1.rests rfl
  · intro memo element inside position
    have grows := (recalls element inside position memo).1
    refine ⟨grows.adds, fun full => grows.rests ?_⟩
    rwa [Memo.isFull_some, decide_eq_true_eq]

/-- How deep elements are nested in each element of the commands to a lamp. -/
def lampNesting (id : Nat) : Nat := [0, 0, 1, 2, 0, 0, 1, 3].getD id 0

/-- Options of a search that remembers two pairs. -/
def forgetfulOptions : MatchOptions := { lampOptions with maxMemoEntries := some 2 }

/-- With a limit of two the memory for the commands ends with five entries, three more, since a
polite word is nested in an optional phrase, in a repetition and in the command. -/
theorem lamp_memory_exceeds_limit : ∃ grammar, lampDeclaration.build = .ok grammar ∧
    (grammar.memory forgetfulOptions lampSentence).size = 5 ∧
    (grammar.memory forgetfulOptions lampSentence).size ≤ 2 + lampNesting grammar.root ∧
    lampNesting grammar.root = 3 := by
  obtain ⟨grammar, built, read⟩ : ∃ grammar, lampDeclaration.build = .ok grammar ∧
      ((grammar.memory forgetfulOptions lampSentence).size, grammar.root,
        grammar.elements.map fun element => element.kind.children) =
          (5, 7, [[], [], [1], [2], [], [], [4, 5], [0, 3, 6]]) := exists_built (by decide +kernel)
  obtain ⟨size, read⟩ := Prod.mk.inj read
  obtain ⟨root, children⟩ := Prod.mk.inj read
  have lower : ∀ parent < 8, ∀ child ∈
      ([[], [], [1], [2], [], [], [4, 5], [0, 3, 6]] : List (List Nat)).getD parent [],
      lampNesting child < lampNesting parent := by decide
  have nested : ∀ parent child, grammar.Contains parent child →
      lampNesting child < lampNesting parent := by
    rintro parent child ⟨kind, present, member⟩
    obtain ⟨element, found, rfl⟩ := Option.map_eq_some_iff.1 present
    have length : grammar.elements.length = 8 := by simpa using congrArg List.length children
    have inside : parent < 8 := length ▸ (List.getElem?_eq_some_iff.1 found).1
    refine lower parent inside child ?_
    rwa [← children, List.getD_eq_getElem?_getD, List.getElem?_map, found]
  have bounded := (memory_size_le_limit_add built (show forgetfulOptions.maxMemoEntries = some 2
    from rfl) lampSentence nested).1
  exact ⟨grammar, built, size, bounded, by rw [root]; rfl⟩

/-- A command of one word. -/
def goDeclaration : Declaration where
  definitions := [⟨"GOAL", .sequence [.literals ["go"]]⟩]

/-- A memory that is limited to one entry gets two: the word is solved while the command is under
way, and the command gets its entry after it. -/
theorem memory_holds_more_than_limit : ∃ grammar, goDeclaration.build = .ok grammar ∧
    ¬ (grammar.memory { maxMemoEntries := some 1 } (Token.ofWords ["go"])).size ≤ 1 ∧
    (grammar.roots { maxMemoEntries := some 1 } (Token.ofWords ["go"])).map Candidate.stop =
      [1] := by
  obtain ⟨grammar, built, read⟩ : ∃ grammar, goDeclaration.build = .ok grammar ∧
      ((grammar.memory { maxMemoEntries := some 1 } (Token.ofWords ["go"])).size,
        (grammar.roots { maxMemoEntries := some 1 } (Token.ofWords ["go"])).map Candidate.stop) =
          (2, [1]) := exists_built (by decide +kernel)
  obtain ⟨size, stops⟩ := Prod.mk.inj read
  exact ⟨grammar, built, by rw [size]; decide, stops⟩

end Grammar

end Utterance

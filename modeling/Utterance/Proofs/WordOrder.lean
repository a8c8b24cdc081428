import Mathlib.Data.List.Nodup
import Utterance.Proofs.Literals

/-!
# Literals are tried by length

The words of a literal set stand in the order `LiteralSet.wordsLe`: more words first, and word by
word among those with as many. So the places where its members stop are listed in strictly
decreasing order (`LiteralSet.pairwise_matchEnds`), although each is listed when it is first met:
the longest member at a token is the first one.
-/
namespace Utterance

/-- Leaving out repetitions leaves a part of a list, in order. -/
theorem eraseDups_sublist {α : Type} [BEq α] (entries : List α) :
    entries.eraseDups.Sublist entries := by
  cases entries with
  | nil => simp
  | cons entry rest =>
    rw [List.eraseDups_cons]
    exact ((eraseDups_sublist _).trans List.filter_sublist).cons_cons entry
termination_by entries.length
decreasing_by exact Nat.lt_succ_of_le (List.length_filter_le _ _)

/-- Without repetitions no entry is listed twice. -/
theorem nodup_eraseDups {α : Type} [BEq α] [LawfulBEq α] (entries : List α) :
    entries.eraseDups.Nodup := by
  cases entries with
  | nil => simp
  | cons entry rest =>
    rw [List.eraseDups_cons, List.nodup_cons]
    exact ⟨by simp, nodup_eraseDups _⟩
termination_by entries.length
decreasing_by exact Nat.lt_succ_of_le (List.length_filter_le _ _)

namespace LiteralSet

/-- Removing repetitions that stand side by side leaves a part of a list, in order. -/
theorem dedup_sublist {α : Type} [BEq α] (entries : List α) :
    (dedup entries).Sublist entries := by
  fun_induction dedup entries with
  | case1 => exact .slnil
  | case2 => exact .refl _
  | case3 first second rest equal hypothesis => exact hypothesis.cons first
  | case4 first second rest different hypothesis => exact hypothesis.cons_cons first

/-- The order of words, word by word, is transitive. -/
theorem inOrder_trans {first second third : List String} (left : inOrder first second = true)
    (right : inOrder second third = true) : inOrder first third = true := by
  induction first generalizing second third with
  | nil => rfl
  | cons word firsts hypothesis =>
    cases second with
    | nil => exact absurd left (by simp [inOrder])
    | cons other seconds =>
      cases third with
      | nil => exact absurd right (by simp [inOrder])
      | cons last thirds =>
        rw [inOrder] at left right ⊢
        by_cases same : word = other
        · subst same
          rw [if_pos rfl] at left
          by_cases level : word = last
          · rw [if_pos level] at right ⊢
            exact hypothesis left right
          · rw [if_neg level] at right ⊢
            exact right
        · rw [if_neg same, decide_eq_true_eq] at left
          by_cases level : other = last
          · rw [← level, if_neg same, decide_eq_true_eq]
            exact left
          · rw [if_neg level, decide_eq_true_eq] at right
            have before := String.lt_trans left right
            rw [if_neg fun equal => String.lt_irrefl _ (equal ▸ before), decide_eq_true_eq]
            exact before

/-- Of any two lists of words one comes no later than the other, word by word. -/
theorem inOrder_total (left right : List String) :
    inOrder left right = true ∨ inOrder right left = true := by
  induction left generalizing right with
  | nil => exact Or.inl rfl
  | cons word lefts hypothesis =>
    cases right with
    | nil => exact Or.inr rfl
    | cons other rights =>
      rw [inOrder, inOrder]
      by_cases same : word = other
      · rw [if_pos same, if_pos same.symm]
        exact hypothesis rights
      · rw [if_neg same, if_neg (Ne.symm same), decide_eq_true_eq, decide_eq_true_eq]
        by_cases before : word < other
        · exact Or.inl before
        · refine Or.inr (Classical.byContradiction fun after => same ?_)
          exact String.le_antisymm (String.not_lt.1 after) (String.not_lt.1 before)

/-- Two lists of words of which neither comes later, word by word, are one list. -/
theorem inOrder_antisymm {left right : List String} (before : inOrder left right = true)
    (after : inOrder right left = true) : left = right := by
  induction left generalizing right with
  | nil =>
    cases right with
    | nil => rfl
    | cons other rights => exact absurd after (by simp [inOrder])
  | cons word lefts hypothesis =>
    cases right with
    | nil => exact absurd before (by simp [inOrder])
    | cons other rights =>
      rw [inOrder] at before after
      by_cases same : word = other
      · rw [if_pos same] at before
        rw [if_pos same.symm] at after
        rw [same, hypothesis before after]
      · rw [if_neg same, decide_eq_true_eq] at before
        rw [if_neg (Ne.symm same), decide_eq_true_eq] at after
        exact absurd after (String.lt_asymm before)

/-- More words come first, and among lists with as many words they are compared word by word. -/
theorem wordsLe_iff (left right : List String) : wordsLe left right = true ↔
    right.length < left.length ∨ left.length = right.length ∧ inOrder left right = true := by
  simp only [wordsLe, Bool.or_eq_true, Bool.and_eq_true, decide_eq_true_eq, beq_iff_eq]

/-- The order of lists of words is transitive. -/
theorem wordsLe_trans (first second third : List String) (left : wordsLe first second = true)
    (right : wordsLe second third = true) : wordsLe first third = true := by
  rw [wordsLe_iff] at left right ⊢
  rcases left with longer | ⟨level, before⟩
  · exact Or.inl (by omega)
  · rcases right with longer | ⟨equal, after⟩
    · exact Or.inl (by omega)
    · exact Or.inr ⟨level.trans equal, inOrder_trans before after⟩

/-- Of any two lists of words one comes no later than the other. -/
theorem wordsLe_total (left right : List String) :
    (wordsLe left right || wordsLe right left) = true := by
  rw [Bool.or_eq_true, wordsLe_iff, wordsLe_iff]
  rcases inOrder_total left right with before | after
  · simp only [before, and_true]
    omega
  · simp only [after, and_true]
    omega

/-- Two lists of words of which neither comes later are one list. -/
theorem wordsLe_antisymm (left right : List String) (before : wordsLe left right = true)
    (after : wordsLe right left = true) : left = right := by
  rw [wordsLe_iff] at before after
  have level : left.length = right.length := by omega
  have forward : inOrder left right = true := by
    rcases before with longer | ⟨-, ordered⟩
    · omega
    · exact ordered
  have backward : inOrder right left = true := by
    rcases after with longer | ⟨-, ordered⟩
    · omega
    · exact ordered
  exact inOrder_antisymm forward backward

/-- The words of a set stand in order. -/
theorem pairwise_words (case : CasePolicy) (members : List String) :
    (ofMembers case members).words.Pairwise fun left right => wordsLe left right = true :=
  (List.pairwise_mergeSort wordsLe_trans wordsLe_total _).sublist (dedup_sublist _)

/-- The places where members stop are listed once each, the farthest first. -/
theorem pairwise_matchEnds (case : CasePolicy) (members folded : List String) (start : Nat) :
    ((ofMembers case members).matchEnds folded start).Pairwise (· > ·) := by
  have listed : (((ofMembers case members).words.filter fun words =>
      words.isPrefixOf (folded.drop start)).map (start + ·.length)).Pairwise (· ≥ ·) := by
    rw [List.pairwise_map]
    refine ((pairwise_words case members).filter _).imp fun {left right} ordered => ?_
    have shorter := (wordsLe_iff left right).1 ordered
    omega
  refine ((listed.sublist (eraseDups_sublist _)).and (nodup_eraseDups _)).imp fun both => ?_
  exact Nat.lt_of_le_of_ne both.1 both.2.symm

end LiteralSet

end Utterance

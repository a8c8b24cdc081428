import Mathlib.Data.Finset.Image
import Utterance.Naming
import Utterance.Proofs.LiteralWindows

/-!
# Literal sets are told by their members

A literal set is put in order and cleared of repetitions twice: its members as texts, and then the
folded words of the members, some of which folding may have made equal. Either time only entries
side by side are compared. The order used is such that two entries of which neither comes later are
one, so equal entries do stand side by side, and each is left once, strictly in order
(`pairwise_dedup`). Lists that are strictly in order are told by the set of their entries
(`eq_iff_toFinset_eq`). So the stored members are told by the phrases that are declared, and the
stored words by these phrases once they are folded (`literals_are_told_by_phrases`): the order of
the declared members, their repetitions, the blanks around their words and blank members leave no
trace.
-/
namespace Utterance.LiteralSet

section

variable {α : Type}

/-- Entries in order are left strictly in order: one that comes again stands beside itself. -/
theorem pairwise_dedup [BEq α] [LawfulBEq α] {le : α → α → Bool}
    (antisymm : ∀ first second, le first second = true → le second first = true → first = second)
    {entries : List α} (ordered : entries.Pairwise fun left right => le left right = true) :
    (dedup entries).Pairwise fun left right => le left right = true ∧ left ≠ right := by
  fun_induction dedup entries with
  | case1 => exact .nil
  | case2 entry => exact List.pairwise_singleton _ entry
  | case3 first second rest equal hypothesis => exact hypothesis ordered.of_cons
  | case4 first second rest different hypothesis =>
    have next : le first second = true := List.rel_of_pairwise_cons ordered List.mem_cons_self
    refine List.pairwise_cons.2 ⟨fun entry kept => ?_, hypothesis ordered.of_cons⟩
    have later : entry ∈ second :: rest := (mem_dedup entry _).1 kept
    refine ⟨List.rel_of_pairwise_cons ordered later, ?_⟩
    rintro rfl
    -- If the first entry comes again, the second stands between its two places and is the same.
    rcases List.mem_cons.1 later with same | again
    · exact different (beq_iff_eq.2 same)
    · have back : le second first = true := List.rel_of_pairwise_cons ordered.of_cons again
      exact different (beq_iff_eq.2 (antisymm first second next back))

/-- Lists that are strictly in order are told by the set of their entries. -/
theorem eq_iff_toFinset_eq [DecidableEq α] {before : α → α → Prop}
    (asymm : ∀ first second, before first second → ¬before second first) {left right : List α}
    (ordered : left.Pairwise before) (arranged : right.Pairwise before) :
    left = right ↔ left.toFinset = right.toFinset := by
  have apart : ∀ first second, before first second → first ≠ second := by
    rintro first second forward rfl
    exact asymm first first forward forward
  constructor
  · intro same
    rw [same]
  · intro same
    have alike : ∀ entry, entry ∈ left ↔ entry ∈ right := fun entry => by
      rw [← List.mem_toFinset, same, List.mem_toFinset]
    have permuted : left.Perm right :=
      (List.perm_ext_iff_of_nodup (ordered.imp (apart _ _)) (arranged.imp (apart _ _))).2 alike
    exact permuted.eq_of_pairwise
      (fun first second _ _ forward back => absurd back (asymm first second forward))
      ordered arranged

end

/-- The phrases that members declare: blank members are left out, and the others have single blanks
between their words. -/
def phrases (members : List String) : Finset String :=
  ((members.filter fun member => member.toList.any (!Text.isBlank ·)).map normalize).toFinset

/-- The phrases that members declare, as words that are folded by the case policy. -/
def foldedPhrases (case : CasePolicy) (members : List String) : Finset (List String) :=
  (phrases members).image fun phrase => (memberWords phrase).map case.fold

section

variable (case : CasePolicy) (members : List String)

/-- The stored members are the declared phrases. -/
theorem toFinset_members : (ofMembers case members).members.toFinset = phrases members := by
  ext phrase
  rw [List.mem_toFinset, mem_members_ofMembers]
  simp only [phrases, List.mem_toFinset, List.mem_map, List.mem_filter, List.any_eq_true,
    Bool.not_eq_true']
  constructor
  · rintro ⟨declared, listed, rfl, present⟩
    exact ⟨declared, ⟨listed, (normalize_ne_empty_iff declared).1 present⟩, rfl⟩
  · rintro ⟨declared, ⟨listed, shown⟩, rfl⟩
    exact ⟨declared, listed, rfl, (normalize_ne_empty_iff declared).2 shown⟩

/-- The stored words are the declared phrases, folded. -/
theorem toFinset_words : (ofMembers case members).words.toFinset = foldedPhrases case members := by
  ext words
  rw [List.mem_toFinset, mem_words_ofMembers]
  simp only [foldedPhrases, Finset.mem_image, ← toFinset_members case, List.mem_toFinset]

/-- The stored members are strictly in order. -/
theorem strict_members : (ofMembers case members).members.Pairwise (· < ·) := by
  have trans : ∀ first second third : String, decide (first ≤ second) = true →
      decide (second ≤ third) = true → decide (first ≤ third) = true :=
    fun first second third forward onward =>
      decide_eq_true (String.le_trans (of_decide_eq_true forward) (of_decide_eq_true onward))
  have total : ∀ first second : String,
      (decide (first ≤ second) || decide (second ≤ first)) = true := by
    intro first second
    rw [Bool.or_eq_true, decide_eq_true_eq, decide_eq_true_eq]
    exact String.le_total first second
  have antisymm : ∀ first second : String, decide (first ≤ second) = true →
      decide (second ≤ first) = true → first = second := fun first second forward back =>
    String.le_antisymm (of_decide_eq_true forward) (of_decide_eq_true back)
  refine (pairwise_dedup antisymm (List.pairwise_mergeSort trans total _)).imp ?_
  intro first second strict
  by_cases forward : first < second
  · exact forward
  · have back : decide (second ≤ first) = true := decide_eq_true (String.not_lt.1 forward)
    exact absurd (antisymm first second strict.1 back) strict.2

/-- The stored words are strictly in order. -/
theorem strict_words : (ofMembers case members).words.Pairwise fun left right =>
    wordsLe left right = true ∧ left ≠ right :=
  pairwise_dedup wordsLe_antisymm (List.pairwise_mergeSort wordsLe_trans wordsLe_total _)

end

variable {case : CasePolicy} {left right : List String}

/-- No list of words comes strictly before another one that comes strictly before it. -/
theorem words_asymm (first second : List String)
    (forward : wordsLe first second = true ∧ first ≠ second) :
    ¬(wordsLe second first = true ∧ second ≠ first) :=
  fun back => forward.2 (wordsLe_antisymm first second forward.1 back.1)

/-- The same members are stored exactly when the same phrases are declared. -/
theorem members_eq_iff : (ofMembers case left).members = (ofMembers case right).members ↔
    phrases left = phrases right := by
  rw [← toFinset_members case left, ← toFinset_members case right]
  exact eq_iff_toFinset_eq (fun _ _ => String.lt_asymm) (strict_members case left)
    (strict_members case right)

/-- The same words are stored exactly when the same phrases are declared, but for their case where
it is folded. -/
theorem words_eq_iff : (ofMembers case left).words = (ofMembers case right).words ↔
    foldedPhrases case left = foldedPhrases case right := by
  rw [← toFinset_words case left, ← toFinset_words case right]
  exact eq_iff_toFinset_eq words_asymm (strict_words case left) (strict_words case right)

/-- A literal set is told by its phrases. The stored members of two lists are the same exactly when
the lists declare the same phrases, and the stored words are the same exactly when these phrases,
folded, are the same. So lists with the same phrases give one set, with one derived name, which
matches at the same places in every text. -/
theorem literals_are_told_by_phrases (case : CasePolicy) (left right : List String) :
    ((ofMembers case left).members = (ofMembers case right).members ↔
      phrases left = phrases right) ∧
    ((ofMembers case left).words = (ofMembers case right).words ↔
      foldedPhrases case left = foldedPhrases case right) ∧
    (phrases left = phrases right →
      (ofMembers case left).members = (ofMembers case right).members ∧
      (ofMembers case left).words = (ofMembers case right).words ∧
      Naming.literals (ofMembers case left).members =
        Naming.literals (ofMembers case right).members ∧
      ∀ folded start, (ofMembers case left).matchEnds folded start =
        (ofMembers case right).matchEnds folded start) := by
  refine ⟨members_eq_iff, words_eq_iff, fun same => ?_⟩
  have members : (ofMembers case left).members = (ofMembers case right).members :=
    members_eq_iff.2 same
  have set : ofMembers case left = ofMembers case right := ofMembers_congr members
  rw [set]
  exact ⟨rfl, rfl, rfl, fun _ _ => rfl⟩

/-- Two colors, one of them in two cases. -/
def colors : List String := ["Dark blue", "red", "Red"]

/-- The same colors in another order, with other blanks, one of them twice, and a blank member. -/
def relistedColors : List String := ["Red", "red ", " Dark\t blue", " ", "red"]

/-- Colors that are listed in another way are one set, and folding leaves two of them. -/
theorem colors_may_be_listed_otherwise :
    phrases colors = phrases relistedColors ∧
    (ofMembers .insensitive relistedColors).members = ["Dark blue", "Red", "red"] ∧
    (ofMembers .insensitive relistedColors).words = [["dark", "blue"], ["red"]] ∧
    Naming.literals (ofMembers .insensitive relistedColors).members =
      "Set(Dark blue|Red|red)" ∧
    (ofMembers .insensitive relistedColors).matchEnds ["a", "dark", "blue"] 1 = [3] := by
  have same : phrases colors = phrases relistedColors := by decide
  obtain ⟨members, words, name, stops⟩ :=
    (literals_are_told_by_phrases .insensitive colors relistedColors).2.2 same
  have stored : (ofMembers .insensitive colors).members = ["Dark blue", "Red", "red"] :=
    (eq_iff_toFinset_eq (fun _ _ => String.lt_asymm) (strict_members _ _) (by decide)).2
      ((toFinset_members _ _).trans (by decide))
  have folded : (ofMembers .insensitive colors).words = [["dark", "blue"], ["red"]] :=
    (eq_iff_toFinset_eq words_asymm (strict_words _ _) (by decide)).2
      ((toFinset_words _ _).trans (by decide))
  refine ⟨same, members.symm.trans stored, words.symm.trans folded, ?_, ?_⟩
  · rw [← name, stored]
    decide
  · rw [← stops, matchEnds, folded]
    decide

end Utterance.LiteralSet

import Utterance.LiteralSet

/-!
# Members of literal sets and where they match

A literal set is stored twice: as its members, sorted, and as the folded words of each member. The
two hold the same phrases (`mem_words_ofMembers`), and every phrase has a word (`words_ne_nil`),
because a member that is nothing but blanks is dropped. A place is listed by `LiteralSet.matchEnds`
exactly when the words of some member stand before it, from the start on.
-/
namespace Utterance

namespace Text

/-- A character that is not blank leaves a run, wherever it stands. -/
theorem runs_ne_nil (current chars : List Char)
    (shown : current ≠ [] ∨ ∃ char ∈ chars, isBlank char = false) : runs current chars ≠ [] := by
  induction chars generalizing current with
  | nil =>
    rcases shown with started | ⟨char, member, -⟩
    · simp [runs, started]
    · exact absurd member List.not_mem_nil
  | cons first rest hypothesis =>
    unfold runs
    by_cases blank : isBlank first = true
    · rw [if_pos blank]
      by_cases started : current = []
      · have later : ∃ char ∈ rest, isBlank char = false := by
          rcases shown with present | ⟨char, member, visible⟩
          · exact absurd started present
          · rcases List.mem_cons.1 member with rfl | member
            · rw [blank] at visible
              exact absurd visible (by decide)
            · exact ⟨char, member, visible⟩
        rw [started]
        exact hypothesis [] (Or.inr later)
      · simp [started]
    · rw [if_neg blank]
      exact hypothesis (current ++ [first]) (Or.inl (by simp))

/-- Blanks leave no run. -/
theorem runs_eq_nil (chars : List Char) (blank : ∀ char ∈ chars, isBlank char = true) :
    runs [] chars = [] := by
  induction chars with
  | nil => rfl
  | cons first rest hypothesis =>
    rw [runs, if_pos (blank first List.mem_cons_self)]
    exact hypothesis fun char member => blank char (List.mem_cons_of_mem _ member)

/-- Runs that grow from characters that are not blank hold such characters, and at least one. -/
theorem mem_runs (current chars run : List Char) (pure : ∀ char ∈ current, isBlank char = false)
    (member : run ∈ runs current chars) : run ≠ [] ∧ ∀ char ∈ run, isBlank char = false := by
  induction chars generalizing current with
  | nil =>
    unfold runs at member
    by_cases started : current = []
    · simp [started] at member
    · simp only [List.isEmpty_iff, started, ↓reduceIte, List.mem_singleton] at member
      rw [member]
      exact ⟨started, pure⟩
  | cons first rest hypothesis =>
    unfold runs at member
    by_cases blank : isBlank first = true
    · rw [if_pos blank] at member
      by_cases started : current = []
      · simp only [started, List.isEmpty_nil, ↓reduceIte] at member
        exact hypothesis [] (by simp) member
      · simp only [List.isEmpty_iff, started, ↓reduceIte, List.mem_cons] at member
        rcases member with rfl | member
        · exact ⟨started, pure⟩
        · exact hypothesis [] (by simp) member
    · rw [if_neg blank] at member
      apply hypothesis (current ++ [first]) _ member
      intro char inside
      rcases List.mem_append.1 inside with inside | last
      · exact pure char inside
      · rw [List.mem_singleton.1 last]
        simpa using blank

/-- The characters of a word stand in every text that joins it with others. -/
theorem mem_toList_intercalate (separator word : String) (words : List String) (char : Char)
    (member : word ∈ words) (inside : char ∈ word.toList) :
    char ∈ (separator.intercalate words).toList := by
  induction words with
  | nil => exact absurd member List.not_mem_nil
  | cons first rest hypothesis =>
    cases rest with
    | nil =>
      rw [List.mem_singleton.1 member] at inside
      simpa using inside
    | cons second others =>
      rw [String.intercalate_cons_cons, String.toList_append, String.toList_append]
      rcases List.mem_cons.1 member with rfl | later
      · simp [inside]
      · exact List.mem_append_right _ (hypothesis later)

end Text

namespace LiteralSet

/-- Removing repetitions that stand side by side keeps the entries. -/
theorem mem_dedup {α : Type} [BEq α] [LawfulBEq α] (entry : α) (entries : List α) :
    entry ∈ dedup entries ↔ entry ∈ entries := by
  fun_induction dedup entries with
  | case1 => rfl
  | case2 => rfl
  | case3 first second rest equal hypothesis =>
    rw [hypothesis, beq_iff_eq.1 equal]
    simp
  | case4 first second rest different hypothesis =>
    rw [List.mem_cons, List.mem_cons, hypothesis]

/-- The stored words are the folded words of the stored members. -/
theorem mem_words_ofMembers (case : CasePolicy) (members words : List String) :
    words ∈ (ofMembers case members).words ↔
      ∃ member ∈ (ofMembers case members).members, (memberWords member).map case.fold = words := by
  simp only [ofMembers, mem_dedup, List.mem_mergeSort, List.mem_map]

/-- A set is told apart by its members. -/
theorem ofMembers_congr {case : CasePolicy} {left right : List String}
    (same : (ofMembers case left).members = (ofMembers case right).members) :
    ofMembers case left = ofMembers case right := by
  have derived : ∀ members, ofMembers case members =
      ⟨(ofMembers case members).members,
        dedup (((ofMembers case members).members.map fun member =>
          (memberWords member).map case.fold).mergeSort wordsLe)⟩ := fun _ => rfl
  rw [derived left, derived right, same]

/-- A stored member is some declared member with single blanks, and not empty. -/
theorem mem_members_ofMembers (case : CasePolicy) (members : List String) (member : String) :
    member ∈ (ofMembers case members).members ↔
      ∃ declared ∈ members, normalize declared = member ∧ member ≠ "" := by
  simp only [ofMembers, mem_dedup, List.mem_mergeSort, List.mem_filter, List.mem_map,
    decide_eq_true_eq]
  grind

/-- A member that is not empty once its blanks are joined has a word. -/
theorem memberWords_normalize_ne_nil (declared : String) (present : normalize declared ≠ "") :
    memberWords (normalize declared) ≠ [] := by
  have words : memberWords declared ≠ [] := by
    intro none
    apply present
    rw [normalize, none, String.intercalate_nil]
  obtain ⟨word, member⟩ := List.exists_mem_of_ne_nil _ words
  have origin := member
  rw [memberWords, Text.splitBlank, List.mem_map] at origin
  obtain ⟨run, inside, rfl⟩ := origin
  obtain ⟨started, visible⟩ := Text.mem_runs [] _ run (by simp) inside
  obtain ⟨char, first⟩ := List.exists_mem_of_ne_nil _ started
  have shown : char ∈ (normalize declared).toList :=
    Text.mem_toList_intercalate " " _ _ char member (by simpa using first)
  rw [memberWords, Text.splitBlank, ne_eq, List.map_eq_nil_iff]
  exact Text.runs_ne_nil [] _ (Or.inr ⟨char, shown, visible char first⟩)

/-- Every member of a literal set has a word, so no member matches without a token. -/
theorem memberWords_ne_nil (case : CasePolicy) (members : List String) (member : String)
    (stored : member ∈ (ofMembers case members).members) : memberWords member ≠ [] := by
  obtain ⟨declared, -, rfl, present⟩ := (mem_members_ofMembers case members member).1 stored
  exact memberWords_normalize_ne_nil declared present

/-- A member is empty once its blanks are joined exactly when it is nothing but blanks. -/
theorem normalize_ne_empty_iff (declared : String) :
    normalize declared ≠ "" ↔ ∃ char ∈ declared.toList, Text.isBlank char = false := by
  constructor
  · intro present
    refine Classical.byContradiction fun blank => present ?_
    have runs : Text.runs [] declared.toList = [] := by
      refine Text.runs_eq_nil _ fun char member => ?_
      cases visible : Text.isBlank char with
      | true => rfl
      | false => exact absurd ⟨char, member, visible⟩ blank
    rw [normalize, memberWords, Text.splitBlank, runs, List.map_nil, String.intercalate_nil]
  · rintro ⟨char, member, visible⟩ none
    obtain ⟨run, inside⟩ :=
      List.exists_mem_of_ne_nil _ (Text.runs_ne_nil [] _ (Or.inr ⟨char, member, visible⟩))
    obtain ⟨first, start⟩ :=
      List.exists_mem_of_ne_nil _ (Text.mem_runs [] _ run (by simp) inside).1
    have shown : first ∈ (normalize declared).toList :=
      Text.mem_toList_intercalate " " (String.ofList run) _ first
        (List.mem_map.2 ⟨run, inside, rfl⟩) (by simpa using start)
    rw [none] at shown
    exact absurd shown (by simp)

/-- A literal set has a member exactly when one of the declared members is not blank. -/
theorem isEmpty_ofMembers_eq_false_iff (case : CasePolicy) (members : List String) :
    (ofMembers case members).isEmpty = false ↔
      ∃ member ∈ members, ∃ char ∈ member.toList, Text.isBlank char = false := by
  rw [isEmpty, List.isEmpty_eq_false_iff_exists_mem]
  simp only [mem_members_ofMembers, ← normalize_ne_empty_iff]
  constructor
  · rintro ⟨member, declared, listed, rfl, present⟩
    exact ⟨declared, listed, present⟩
  · rintro ⟨declared, listed, present⟩
    exact ⟨_, declared, listed, rfl, present⟩

/-- A place is listed when the words of a member stand in the folded texts from the start on, and
the place comes right after them. -/
theorem mem_matchEnds (set : LiteralSet) (folded : List String) (start stop : Nat) :
    stop ∈ set.matchEnds folded start ↔
      ∃ words ∈ set.words, words = (folded.drop start).take words.length ∧
        stop = start + words.length := by
  simp only [matchEnds, List.mem_eraseDups, List.mem_map, List.mem_filter,
    List.isPrefixOf_iff_prefix, List.prefix_iff_eq_take]
  grind

end LiteralSet

end Utterance

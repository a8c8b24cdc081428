import Utterance.Proofs.WordOrder
import Utterance.Token

/-!
# Members of literal sets and windows of tokens

A member is compared with a window of as many tokens as it has words. Declared members may have any
blanks between their words and may be given twice, in any order; what is stored of them loses none
of this that matters (`mem_words_iff`), since joining the words of a member by single blanks keeps
them (`memberWords_normalize`). `LiteralSet.scan?` goes through the stored words as a loop does: it
passes over a window that would reach beyond the tokens or that stops where one was found, and it
fails if it ever takes a window that is not there. It never fails, and it finds what
`LiteralSet.matchEnds` lists (`scan?_eq`), which is exactly what the declared members say
(`literals_match_exactly`).
-/
namespace Utterance

namespace Text

/-- Characters that are not blank go into the run under way. -/
theorem runs_append (current word rest : List Char)
    (visible : ∀ char ∈ word, isBlank char = false) :
    runs current (word ++ rest) = runs (current ++ word) rest := by
  induction word generalizing current with
  | nil => rw [List.nil_append, List.append_nil]
  | cons char word hypothesis =>
    have first : isBlank char = false := visible char List.mem_cons_self
    have others := hypothesis (current ++ [char]) fun other member =>
      visible other (List.mem_cons_of_mem _ member)
    rw [List.cons_append, runs, if_neg (by simp [first]), others, List.append_assoc,
      List.singleton_append]

/-- Words that are joined by single blanks are the runs of what they are joined to. -/
theorem runs_intercalate {words : List (List Char)}
    (shown : ∀ word ∈ words, word ≠ [] ∧ ∀ char ∈ word, isBlank char = false) :
    runs [] ([' '].intercalate words) = words := by
  induction words with
  | nil => rfl
  | cons word rest hypothesis =>
    have later := hypothesis fun other member => shown other (List.mem_cons_of_mem _ member)
    have filled : word ≠ [] := (shown word List.mem_cons_self).1
    have visible := (shown word List.mem_cons_self).2
    cases rest with
    | nil =>
      have whole := runs_append [] word [] visible
      rw [List.append_nil, List.nil_append] at whole
      rw [List.intercalate_singleton, whole]
      simp [runs, filled]
    | cons next others =>
      rw [List.intercalate_cons_cons, List.append_assoc, runs_append [] word _ visible,
        List.nil_append, List.singleton_append, runs, if_pos (by decide),
        if_neg (by simpa using filled), later]

/-- Joining the words of a text by single blanks keeps them. -/
theorem splitBlank_intercalate (text : String) :
    splitBlank (" ".intercalate (splitBlank text)) = splitBlank text := by
  have joined : (" ".intercalate (splitBlank text)).toList =
      [' '].intercalate (runs [] text.toList) := by
    rw [String.toList_intercalate, splitBlank, List.map_map]
    have same : String.toList ∘ String.ofList = id := funext fun run => String.toList_ofList
    rw [same, List.map_id]
    rfl
  rw [splitBlank, joined, runs_intercalate fun run member => mem_runs [] _ run (by simp) member]
  rfl

end Text

namespace LiteralSet

variable {case : CasePolicy} {members folded words : List String} {start : Nat}

/-- The stored form of a member has the words of the member. -/
theorem memberWords_normalize (declared : String) :
    memberWords (normalize declared) = memberWords declared :=
  Text.splitBlank_intercalate declared

/-- A member is stored when it has a word. -/
theorem normalize_ne_empty_iff_words (declared : String) :
    normalize declared ≠ "" ↔ memberWords declared ≠ [] := by
  constructor
  · intro present
    have words := memberWords_normalize_ne_nil declared present
    rwa [memberWords_normalize] at words
  · intro words empty
    apply words
    rw [← memberWords_normalize, empty]
    rfl

/-- The stored words are the folded words of the declared members that have a word. -/
theorem mem_words_iff :
    words ∈ (ofMembers case members).words ↔
      ∃ member ∈ members, memberWords member ≠ [] ∧ (memberWords member).map case.fold = words := by
  rw [mem_words_ofMembers]
  constructor
  · rintro ⟨stored, listed, same⟩
    have origin := (mem_members_ofMembers case members stored).1 listed
    rcases origin with ⟨declared, member, rfl, present⟩
    have kept := memberWords_normalize declared
    rw [kept] at same
    exact ⟨declared, member, (normalize_ne_empty_iff_words declared).1 present, same⟩
  · rintro ⟨declared, member, filled, same⟩
    have present := (normalize_ne_empty_iff_words declared).2 filled
    have listed := (mem_members_ofMembers case members _).2 ⟨declared, member, rfl, present⟩
    have kept := memberWords_normalize declared
    exact ⟨normalize declared, listed, by rw [kept, same]⟩

/-- Words stand in the texts from a start on when each stands at its place. -/
theorem eq_window_iff :
    words = (folded.drop start).take words.length ↔
      ∀ index (inside : index < words.length), folded[start + index]? = some words[index] := by
  constructor
  · intro same index inside
    have here := congrArg (fun window : List String => window[index]?) same
    simp only [List.getElem?_take_of_lt inside, List.getElem?_drop] at here
    rw [← here, List.getElem?_eq_getElem inside]
  · intro each
    apply List.ext_getElem?
    intro index
    by_cases inside : index < words.length
    · rw [List.getElem?_take_of_lt inside, List.getElem?_drop, each index inside,
        List.getElem?_eq_getElem inside]
    · have beyond : words.length ≤ index := Nat.le_of_not_lt inside
      rw [List.getElem?_eq_none beyond, List.getElem?_take_eq_none beyond]

/-- The texts from a start up to a stop, if both are places among them, in this order. -/
def window? (folded : List String) (start stop : Nat) : Option (List String) :=
  if start ≤ stop ∧ stop ≤ folded.length then some ((folded.drop start).take (stop - start))
  else none

/-- Compare lists of words with the texts from a start on, one list after another, given the places
that were found before. A list is passed over when it reaches beyond the texts, or stops at a place
that is found already; there is no result if a window is taken that is not there. -/
def scanFrom? (folded : List String) (start : Nat) (found : List Nat) :
    List (List String) → Option (List Nat)
  | [] => some found
  | words :: rest =>
    let stop := start + words.length
    if folded.length < stop ∨ stop ∈ found then scanFrom? folded start found rest
    else
      (window? folded start stop).bind fun window =>
        scanFrom? folded start (if window = words then found ++ [stop] else found) rest

/-- Where the members of a set that start at a token stop, found by comparing all of them. -/
def scan? (set : LiteralSet) (folded : List String) (start : Nat) : Option (List Nat) :=
  scanFrom? folded start [] set.words

/-- Where lists of words stop that stand in the texts from a start on. -/
def stopsOf (folded : List String) (start : Nat) (pending : List (List String)) : List Nat :=
  (pending.filter fun words => words.isPrefixOf (folded.drop start)).map (start + ·.length)

/-- The window that is as long as some words is there unless it reaches beyond the texts. -/
theorem window?_eq (room : start + words.length ≤ folded.length) :
    window? folded start (start + words.length) = some ((folded.drop start).take words.length) := by
  have within : start ≤ start + words.length ∧ start + words.length ≤ folded.length :=
    ⟨Nat.le_add_right _ _, room⟩
  rw [window?, if_pos within, Nat.add_sub_cancel_left]

/-- The scan finds each place once, after those that were found before. -/
theorem scanFrom?_eq {pending : List (List String)} (filled : ∀ words ∈ pending, words ≠ [])
    (found : List Nat) :
    scanFrom? folded start found pending =
      some (found ++ ((stopsOf folded start pending).filter (· ∉ found)).eraseDups) := by
  induction pending generalizing found with
  | nil => simp [scanFrom?, stopsOf]
  | cons words rest hypothesis =>
    have later := hypothesis fun other member => filled other (List.mem_cons_of_mem _ member)
    have present : 0 < words.length :=
      List.length_pos_iff.2 (filled words List.mem_cons_self)
    unfold scanFrom?
    by_cases stands : words.isPrefixOf (folded.drop start) = true
    · have stops : stopsOf folded start (words :: rest) =
          (start + words.length) :: stopsOf folded start rest := by
        simp [stopsOf, stands]
      have same : words = (folded.drop start).take words.length :=
        List.prefix_iff_eq_take.1 (List.isPrefixOf_iff_prefix.1 stands)
      have room : start + words.length ≤ folded.length := by
        have short := (List.isPrefixOf_iff_prefix.1 stands).length_le
        rw [List.length_drop] at short
        omega
      rw [stops]
      by_cases known : start + words.length ∈ found
      · rw [if_pos (Or.inr known), later, List.filter_cons_of_neg (by simpa using known)]
      · rw [if_neg (by simp [known, room]), window?_eq room, Option.bind_some, if_pos same.symm,
          later, List.filter_cons_of_pos (by simpa using known), List.eraseDups_cons,
          List.filter_filter, List.append_assoc, List.singleton_append]
        congr 4
        apply List.filter_congr
        intro stop member
        simp [and_comm, Bool.beq_eq_decide_eq]
    · have stops : stopsOf folded start (words :: rest) = stopsOf folded start rest := by
        simp [stopsOf, stands]
      rw [stops]
      by_cases passed : folded.length < start + words.length ∨ start + words.length ∈ found
      · rw [if_pos passed, later]
      · have room : start + words.length ≤ folded.length := by
          rw [not_or] at passed
          omega
        have other : (folded.drop start).take words.length ≠ words := by
          intro same
          exact stands (List.isPrefixOf_iff_prefix.2 (List.prefix_iff_eq_take.2 same.symm))
        rw [if_neg passed, window?_eq room, Option.bind_some, if_neg other, later]

/-- The scan of a set whose members have words finds the places that are listed. -/
theorem scan?_eq {set : LiteralSet} (filled : ∀ words ∈ set.words, words ≠ []) :
    set.scan? folded start = some (set.matchEnds folded start) := by
  rw [scan?, scanFrom?_eq filled]
  simp [stopsOf, matchEnds]

/-- A place is listed exactly when some declared member has as many words as there are texts from
the start up to it, at least one, and each word is folded to the text at its place. -/
theorem mem_matchEnds_ofMembers (stop : Nat) :
    stop ∈ (ofMembers case members).matchEnds folded start ↔ ∃ member ∈ members,
      1 ≤ (memberWords member).length ∧ start + (memberWords member).length = stop ∧
      stop ≤ folded.length ∧
      ∀ index (inside : index < (memberWords member).length),
        folded[start + index]? = some (case.fold (memberWords member)[index]) := by
  rw [mem_matchEnds]
  constructor
  · rintro ⟨words, stored, same, rfl⟩
    rcases mem_words_iff.1 stored with ⟨member, declared, present, rfl⟩
    have each := eq_window_iff.1 same
    have count : 1 ≤ (memberWords member).length := List.length_pos_iff.2 present
    simp only [List.length_map, List.getElem_map] at each ⊢
    -- The last word stands at a place among the texts, so all of them do.
    have last := each ((memberWords member).length - 1) (by omega)
    have inside := (List.getElem?_eq_some_iff.1 last).1
    exact ⟨member, declared, count, rfl, by omega, each⟩
  · rintro ⟨member, declared, count, rfl, -, each⟩
    have present : memberWords member ≠ [] := List.length_pos_iff.1 count
    have stored : (memberWords member).map case.fold ∈ (ofMembers case members).words :=
      mem_words_iff.2 ⟨member, declared, present, rfl⟩
    have same : (memberWords member).map case.fold =
        (folded.drop start).take ((memberWords member).map case.fold).length := by
      apply eq_window_iff.2
      intro index inside
      rw [List.length_map] at inside
      rw [List.getElem_map]
      exact each index inside
    exact ⟨_, stored, same, by rw [List.length_map]⟩

/-- Where the members of a literal set stop that start at a token is listed once each, the farthest
first, and it is what the declared members say: a place is listed exactly when some declared member
has as many words as there are tokens up to it, at least one, and each word, folded, is the folded
text of its token. So no member stops where it starts, and comparing all members in turn, which
gives the same list, never takes a window that reaches beyond the tokens. -/
theorem literals_match_exactly (case : CasePolicy) (members : List String) (tokens : List Token)
    (start : Nat) :
    let set := ofMembers case members
    let folded := tokens.map fun token => case.fold token.text
    (set.matchEnds folded start).Pairwise (· > ·) ∧
    (∀ stop, stop ∈ set.matchEnds folded start ↔ ∃ member ∈ members,
      1 ≤ (memberWords member).length ∧ start + (memberWords member).length = stop ∧
      stop ≤ tokens.length ∧
      ∀ index (inside : index < (memberWords member).length),
        folded[start + index]? = some (case.fold (memberWords member)[index])) ∧
    start ∉ set.matchEnds folded start ∧
    set.scan? folded start = some (set.matchEnds folded start) := by
  intro set folded
  have size : folded.length = tokens.length := List.length_map _
  have filled : ∀ words ∈ set.words, words ≠ [] := by
    intro words stored
    rcases mem_words_iff.1 stored with ⟨member, -, present, rfl⟩
    simpa using present
  have moves : start ∉ set.matchEnds folded start := by
    intro still
    rcases (mem_matchEnds_ofMembers start).1 still with ⟨member, -, count, same, -⟩
    omega
  rw [← size]
  exact ⟨pairwise_matchEnds case members folded start, mem_matchEnds_ofMembers, moves,
    scan?_eq filled⟩

end LiteralSet

end Utterance

import Mathlib.Data.List.InsertIdx
import Utterance.Proofs.Slide

/-!
# Tokens that mean nothing to a grammar

A filler is a token that no terminal of a grammar takes: no pattern accepts it, and it is no word of
a literal member. Put in where it divides no phrase that a literal matches (`Inert`), it leaves
terminals the windows that they had, moved by its room: a terminal has no window at the filler and,
from the token that was there before, the same stops (`Inert.terminalEnds_slide`). What a terminal
finds from a position therefore slides as a whole (`Inert.terminals_slide`).
-/
namespace Utterance

/-- Whether a token that is put in at a place is noise to a grammar and divides no phrase. -/
structure Inert (grammar : Grammar) (tokens : List Token) (filler : Token) (place : Nat) :
    Prop where
  /-- The place is among the tokens, or after the last one. -/
  inside : place ≤ tokens.length
  /-- No pattern accepts the filler. -/
  unaccepted : ∀ element matcher, kindOf? grammar.elements element = some (.pattern matcher) →
    matcher.accepts filler.text = false
  /-- The filler is no word of a literal member. -/
  unknown : ∀ element set, kindOf? grammar.elements element = some (.literals set) →
    ∀ member ∈ set.members,
      grammar.case.fold filler.text ∉ (LiteralSet.memberWords member).map grammar.case.fold
  /-- No literal covers the tokens on both sides of the place. -/
  whole : ∀ element set, kindOf? grammar.elements element = some (.literals set) →
    ∀ start stop, (Kind.literals set).Covers grammar.case tokens start stop →
      ¬ (start < place ∧ place < stop)

/-- Whether a terminal takes no account of a token that is put in at a place, in a form that can be
evaluated. -/
def Kind.Ignores (case : CasePolicy) (tokens : List Token) (filler : Token) (place : Nat) :
    Kind → Prop
  | .literals set => ∀ member ∈ set.members,
      case.fold filler.text ∉ (LiteralSet.memberWords member).map case.fold ∧
      ∀ start < place, place < start + (LiteralSet.memberWords member).length →
        ((tokens.drop start).take (LiteralSet.memberWords member).length).map
          (fun token => case.fold token.text) ≠ (LiteralSet.memberWords member).map case.fold
  | .pattern matcher => matcher.accepts filler.text = false
  | _ => True

instance (case : CasePolicy) (tokens : List Token) (filler : Token) (place : Nat) (kind : Kind) :
    Decidable (kind.Ignores case tokens filler place) :=
  match kind with
  | .literals _ => inferInstanceAs (Decidable (∀ member ∈ _, _ ∧ ∀ start < place, _ → _ ≠ _))
  | .pattern _ => inferInstanceAs (Decidable (_ = false))
  | .sequence _ | .choice _ | .optional _ | .repetition _ _ _ => .isTrue True.intro

/-- A token is noise to a grammar when each of its elements ignores it. -/
theorem inert_iff {grammar : Grammar} {tokens : List Token} {filler : Token} {place : Nat} :
    Inert grammar tokens filler place ↔ place ≤ tokens.length ∧
      ∀ entry ∈ grammar.elements, entry.kind.Ignores grammar.case tokens filler place := by
  constructor
  · intro inert
    refine ⟨inert.inside, fun entry listed => ?_⟩
    obtain ⟨element, found⟩ := List.mem_iff_getElem?.1 listed
    have present : kindOf? grammar.elements element = some entry.kind := by
      rw [kindOf?, found, Option.map_some]
    cases shown : entry.kind with
    | literals set =>
      rw [shown] at present
      refine fun member stored => ⟨inert.unknown element set present member stored, ?_⟩
      intro start before after equal
      refine inert.whole element set present start _ ⟨member, stored, rfl, ?_⟩ ⟨before, after⟩
      rw [Nat.add_sub_cancel_left]
      exact equal
    | pattern matcher =>
      rw [shown] at present
      exact inert.unaccepted element matcher present
    | sequence children => trivial
    | choice children => trivial
    | optional inner => trivial
    | repetition inner min max => trivial
  · rintro ⟨inside, ignores⟩
    have each : ∀ element kind, kindOf? grammar.elements element = some kind →
        kind.Ignores grammar.case tokens filler place := by
      intro element kind present
      obtain ⟨entry, found, rfl⟩ := Option.map_eq_some_iff.1 present
      exact ignores entry (List.mem_of_getElem? found)
    refine ⟨inside, fun element matcher present => each element _ present, ?_, ?_⟩
    · exact fun element set present member stored => (each element _ present member stored).1
    · rintro element set present start stop ⟨member, stored, rfl, equal⟩ ⟨before, after⟩
      rw [Nat.add_sub_cancel_left] at equal
      exact (each element _ present member stored).2 start before after equal

instance (grammar : Grammar) (tokens : List Token) (filler : Token) (place : Nat) :
    Decidable (Inert grammar tokens filler place) :=
  decidable_of_iff _ inert_iff.symm

/-- Repetitions are dropped before entries are renamed or after. -/
theorem eraseDups_map {α β : Type} [BEq α] [LawfulBEq α] [BEq β] [LawfulBEq β] {rename : α → β}
    (injective : Function.Injective rename) (entries : List α) :
    (entries.map rename).eraseDups = entries.eraseDups.map rename := by
  induction size : entries.length using Nat.strongRecOn generalizing entries with
  | ind count hypothesis =>
  cases entries with
  | nil => rfl
  | cons entry rest =>
    have others : (rest.map rename).filter (fun other => !other == rename entry) =
        (rest.filter fun other => !other == entry).map rename := by
      rw [List.filter_map]
      congr 1
      refine List.filter_congr fun other _ => ?_
      rw [Function.comp, Bool.eq_iff_iff]
      simp [injective.eq_iff]
    have shorter : (rest.filter fun other => !other == entry).length < count := by
      have bound := List.length_filter_le (fun other => !other == entry) rest
      rw [List.length_cons] at size
      omega
    rw [List.map_cons, List.eraseDups_cons, List.eraseDups_cons, others, List.map_cons,
      hypothesis _ shorter _ rfl]

section

variable {α : Type} {place start stop : Nat}

/-- An item is found where it slides to. -/
theorem getElem?_insertIdx_slideToken (items : List α) (item : α) (place index : Nat) :
    (items.insertIdx place item)[slideToken place index]? = items[index]? := by
  rw [List.getElem?_insertIdx]
  unfold slideToken
  by_cases after : place ≤ index
  · rw [if_pos after, if_neg (by omega), if_neg (by omega), Nat.add_sub_cancel]
  · rw [if_neg after, if_pos (by omega)]

/-- A window that stays together holds the items that it held. -/
theorem window_insertIdx (items : List α) (item : α) (filled : start < stop)
    (together : ¬ (start < place ∧ place < stop)) :
    ((items.insertIdx place item).drop (slideToken place start)).take (stop - start) =
      (items.drop start).take (stop - start) := by
  apply List.ext_getElem?
  intro index
  rw [List.getElem?_take, List.getElem?_take]
  by_cases within : index < stop - start
  · have moved : slideToken place start + index = slideToken place (start + index) := by
      unfold slideToken
      split <;> split <;> omega
    rw [if_pos within, if_pos within, List.getElem?_drop, List.getElem?_drop, moved,
      getElem?_insertIdx_slideToken]
  · rw [if_neg within, if_neg within]

end

namespace LiteralSet

variable {set : LiteralSet} {folded : List String} {word : String} {place : Nat}

/-- Whether the words of a member stand in the folded texts from a start on. -/
theorem isPrefixOf_drop_iff (words folded : List String) (start : Nat) :
    words.isPrefixOf (folded.drop start) = true ↔
      words = (folded.drop start).take words.length := by
  rw [List.isPrefixOf_iff_prefix, List.prefix_iff_eq_take]

/-- A word that stands in the texts inside the window of a phrase is a word of the phrase. -/
theorem mem_of_isPrefixOf {words : List String} {start : Nat}
    (found : words.isPrefixOf (folded.drop start) = true) (after : start ≤ place)
    (before : place < start + words.length) (there : folded[place]? = some word) :
    word ∈ words := by
  have equal := (isPrefixOf_drop_iff words folded start).1 found
  rw [equal]
  refine List.mem_of_getElem? (i := place - start) ?_
  rw [List.getElem?_take, if_pos (by omega), List.getElem?_drop]
  rwa [Nat.add_sub_cancel' after]

/-- No member starts with a word that no member has. -/
theorem matchEnds_eq_nil (filled : ∀ words ∈ set.words, words ≠ [])
    (unknown : ∀ words ∈ set.words, word ∉ words) (there : folded[place]? = some word) :
    set.matchEnds folded place = [] := by
  have none : (set.words.filter fun words => words.isPrefixOf (folded.drop place)) = [] := by
    rw [List.filter_eq_nil_iff]
    intro words member found
    have length := List.length_pos_iff.2 (filled words member)
    exact unknown words member (mem_of_isPrefixOf found (Nat.le_refl _) (by omega) there)
  rw [matchEnds, none]
  rfl

/-- Members that start at a token end where they ended, if the word that is put in is no word of a
member and divides none that is matched. -/
theorem matchEnds_insertIdx (inside : place ≤ folded.length)
    (filled : ∀ words ∈ set.words, words ≠ []) (unknown : ∀ words ∈ set.words, word ∉ words)
    (start : Nat)
    (whole : ∀ words ∈ set.words, words = (folded.drop start).take words.length →
      ¬ (start < place ∧ place < start + words.length)) :
    set.matchEnds (folded.insertIdx place word) (slideToken place start) =
      (set.matchEnds folded start).map (slidePosition place) := by
  have there : (folded.insertIdx place word)[place]? = some word := by
    rw [List.getElem?_insertIdx, if_neg (Nat.lt_irrefl _), if_pos rfl, if_pos inside]
  have same : ∀ words ∈ set.words,
      words.isPrefixOf ((folded.insertIdx place word).drop (slideToken place start)) =
        words.isPrefixOf (folded.drop start) := by
    intro words member
    have length := List.length_pos_iff.2 (filled words member)
    rw [Bool.eq_iff_iff]
    by_cases together : ¬ (start < place ∧ place < start + words.length)
    · have window := window_insertIdx folded word (Nat.lt_add_of_pos_right length) together
      rw [Nat.add_sub_cancel_left] at window
      rw [isPrefixOf_drop_iff, isPrefixOf_drop_iff, window]
    · -- A phrase on both sides of the place is matched neither before nor after.
      obtain ⟨before, after⟩ := Classical.not_not.1 together
      have stays : slideToken place start = start := if_neg (by omega)
      rw [stays]
      constructor
      · intro found
        have member' := mem_of_isPrefixOf found (Nat.le_of_lt before) after there
        exact absurd member' (unknown words member)
      · intro found
        exact absurd ⟨before, after⟩ (whole words member ((isPrefixOf_drop_iff _ _ _).1 found))
  rw [matchEnds, matchEnds, ← eraseDups_map (fun _ _ => slidePosition_inj.1), List.map_map,
    List.filter_congr same]
  congr 1
  refine List.map_congr_left fun words found => ?_
  obtain ⟨member, matched⟩ := List.mem_filter.1 found
  have length := List.length_pos_iff.2 (filled words member)
  have together := whole words member ((isPrefixOf_drop_iff _ _ _).1 matched)
  rw [Function.comp]
  unfold slideToken slidePosition
  split <;> split <;> omega

end LiteralSet

namespace MatchSpan

variable {place start stop : Nat}

/-- Places before the room stay. -/
theorem map_slideToken_before (before : stop ≤ place) :
    (places start stop).map (slideToken place) = places start stop := by
  conv_rhs => rw [← List.map_id (places start stop)]
  refine List.map_congr_left fun token member => ?_
  rw [places, List.mem_range'_1] at member
  exact if_neg (by omega)

/-- Places after the room move by one. -/
theorem map_slideToken_after (after : place ≤ start) :
    (places start stop).map (slideToken place) = places (start + 1) (stop + 1) := by
  have moved : (places start stop).map (slideToken place) = (places start stop).map (1 + ·) := by
    refine List.map_congr_left fun token member => ?_
    rw [places, List.mem_range'_1] at member
    unfold slideToken
    rw [if_pos (by omega), Nat.add_comm]
  rw [moved, places, List.map_add_range', places, Nat.add_comm 1, Nat.add_sub_add_right]

/-- A window that stays together has the places that it had. -/
theorem map_slideToken_places (filled : start < stop)
    (together : ¬ (start < place ∧ place < stop)) :
    (places start stop).map (slideToken place) =
      places (slideToken place start) (slidePosition place stop) := by
  unfold slideToken slidePosition
  by_cases after : place ≤ start
  · rw [if_pos after, if_pos (by omega)]
    exact map_slideToken_after after
  · rw [if_neg after, if_neg (by omega)]
    exact map_slideToken_before (by omega)

/-- Places around the room: those before it, the room, and those after it. -/
theorem places_room {position length : Nat} (before : position ≤ place) (inside : place ≤ length) :
    places position (length + 1) =
      places position place ++ place :: (places place length).map (slideToken place) := by
  have room : places place (length + 1) = place :: places (place + 1) (length + 1) := by
    rw [places, places, Nat.add_sub_add_right, Nat.succ_sub inside, List.range'_succ]
  rw [map_slideToken_after (Nat.le_refl _), ← room, places_append before (by omega)]

/-- Places before and after the room. -/
theorem map_slideToken_split {position length : Nat} (before : position ≤ place)
    (inside : place ≤ length) :
    (places position length).map (slideToken place) =
      places position place ++ (places place length).map (slideToken place) := by
  rw [← places_append before inside, List.map_append, map_slideToken_before (Nat.le_refl _)]

/-- What is gathered from the places from a position on, if there is nothing at the room. -/
theorem flatMap_places_slide {β : Type} (gather : Nat → List β) {length : Nat}
    (quiet : gather place = []) (inside : place ≤ length) (position : Nat) :
    (places (slidePosition place position) (length + 1)).flatMap gather =
      (places position length).flatMap fun token => gather (slideToken place token) := by
  have moved : ((places position length).flatMap fun token => gather (slideToken place token)) =
      ((places position length).map (slideToken place)).flatMap gather :=
    (List.flatMap_map _ _ _).symm
  rw [moved]
  unfold slidePosition
  by_cases after : place < position
  · rw [if_pos after, map_slideToken_after (Nat.le_of_lt after)]
  · have before : position ≤ place := Nat.le_of_not_lt after
    rw [if_neg after, places_room before inside, map_slideToken_split before inside,
      List.flatMap_append, List.flatMap_cons, quiet, List.nil_append, List.flatMap_append]

/-- The places of one more token are the room and the places that were there. -/
theorem range_perm_slide {length : Nat} (inside : place ≤ length) :
    (List.range (length + 1)).Perm (place :: (List.range length).map (slideToken place)) := by
  have all : ∀ count, List.range count = places 0 count := fun _ => List.range_eq_range'
  rw [all, all, places_room (Nat.zero_le _) inside, map_slideToken_split (Nat.zero_le _) inside]
  exact List.perm_middle

end MatchSpan

namespace Inert

variable {grammar : Grammar} {options : MatchOptions} {tokens : List Token} {filler : Token}
  {place element : Nat} {kind : Kind}

/-- No terminal stays on both sides of the room. -/
theorem together (inert : Inert grammar tokens filler place)
    (present : kindOf? grammar.elements element = some kind) {start stop : Nat}
    (covers : kind.Covers grammar.case tokens start stop) : ¬ (start < place ∧ place < stop) := by
  cases kind with
  | literals set => exact inert.whole element set present start stop covers
  | pattern matcher =>
    obtain ⟨rfl, -⟩ := covers
    omega
  | sequence children => exact covers.elim
  | choice children => exact covers.elim
  | optional inner => exact covers.elim
  | repetition inner min max => exact covers.elim

/-- The filler is no word that a literal set asks for, and every member of the set asks for one. -/
theorem words (grounded : Grounded grammar.case grammar.elements)
    (inert : Inert grammar tokens filler place) {set : LiteralSet}
    (present : kindOf? grammar.elements element = some (.literals set)) :
    ∀ words ∈ set.words, words ≠ [] ∧ grammar.case.fold filler.text ∉ words := by
  intro words member
  have unknown := inert.unknown element set present
  obtain ⟨-, members, rfl, -⟩ := grounded.admissible _ _ present
  obtain ⟨text, stored, rfl⟩ := (LiteralSet.mem_words_ofMembers _ _ _).1 member
  refine ⟨?_, unknown text stored⟩
  have filled := LiteralSet.memberWords_ne_nil grammar.case members text stored
  simpa using filled

/-- No terminal starts with the filler. -/
theorem terminalEnds_filler (grounded : Grounded grammar.case grammar.elements)
    (inert : Inert grammar tokens filler place)
    (present : kindOf? grammar.elements element = some kind) :
    (Search.of grammar options (tokens.insertIdx place filler)).terminalEnds kind place = [] := by
  have there : (tokens.insertIdx place filler)[place]? = some filler := by
    rw [List.getElem?_insertIdx, if_neg (Nat.lt_irrefl _), if_pos rfl, if_pos inert.inside]
  cases kind with
  | literals set =>
    have words := inert.words grounded present
    refine LiteralSet.matchEnds_eq_nil (fun entry member => (words entry member).1)
      (fun entry member => (words entry member).2) ?_
    simp [Search.of, there]
  | pattern matcher =>
    have refused := inert.unaccepted element matcher present
    simp [Search.terminalEnds, Search.of, there, refused]
  | sequence children => rfl
  | choice children => rfl
  | optional inner => rfl
  | repetition inner min max => rfl

/-- A terminal that starts with a token stops where it stopped. -/
theorem terminalEnds_slide (grounded : Grounded grammar.case grammar.elements)
    (inert : Inert grammar tokens filler place)
    (present : kindOf? grammar.elements element = some kind) (start : Nat) :
    (Search.of grammar options (tokens.insertIdx place filler)).terminalEnds kind
        (slideToken place start) =
      ((Search.of grammar options tokens).terminalEnds kind start).map (slidePosition place) := by
  cases kind with
  | literals set =>
    have words := inert.words grounded present
    have moved : (Search.of grammar options (tokens.insertIdx place filler)).folded =
        (Search.of grammar options tokens).folded.insertIdx place
          (grammar.case.fold filler.text) := List.map_insertIdx _ _ _ _
    rw [Search.terminalEnds, moved]
    refine LiteralSet.matchEnds_insertIdx (by simpa [Search.of] using inert.inside)
      (fun entry member => (words entry member).1) (fun entry member => (words entry member).2)
      start fun entry member found => ?_
    refine inert.together present ((Kind.mem_terminalEnds (grounded.admissible _ _ present) options
      tokens start (start + entry.length)).1 ?_)
    exact (LiteralSet.mem_matchEnds _ _ _ _).2 ⟨entry, member, found, rfl⟩
  | pattern matcher =>
    have moved : (Search.of grammar options (tokens.insertIdx place filler)).texts =
        (Search.of grammar options tokens).texts.insertIdx place filler.text :=
      List.map_insertIdx _ _ _ _
    rw [Search.terminalEnds, Search.terminalEnds, moved, getElem?_insertIdx_slideToken,
      apply_ite (List.map (slidePosition place)), List.map_singleton, List.map_nil,
      slidePosition_succ]
  | sequence children => rfl
  | choice children => rfl
  | optional inner => rfl
  | repetition inner min max => rfl

/-- Where a terminal may stop, it covers tokens, and the room does not divide them. -/
theorem window (grounded : Grounded grammar.case grammar.elements)
    (inert : Inert grammar tokens filler place)
    (present : kindOf? grammar.elements element = some kind) {start stop : Nat}
    (listed : stop ∈ (Search.of grammar options tokens).terminalEnds kind start) :
    start < stop ∧ ¬ (start < place ∧ place < stop) := by
  have admissible := grounded.admissible _ _ present
  have covers := (Kind.mem_terminalEnds admissible options tokens start stop).1 listed
  exact ⟨(covers.bounds admissible).1, inert.together present covers⟩

/-- The matches of a terminal that start with a token slide. -/
theorem map_terminal_slide (grounded : Grounded grammar.case grammar.elements)
    (inert : Inert grammar tokens filler place)
    (present : kindOf? grammar.elements element = some kind) (start : Nat) :
    ((Search.of grammar options (tokens.insertIdx place filler)).terminalEnds kind
        (slideToken place start)).map (Candidate.terminal element (slideToken place start)) =
      (((Search.of grammar options tokens).terminalEnds kind start).map
        (Candidate.terminal element start)).map (Candidate.slide place) := by
  rw [inert.terminalEnds_slide grounded present, List.map_map, List.map_map]
  refine List.map_congr_left fun stop listed => ?_
  obtain ⟨filled, together⟩ := inert.window grounded present listed
  exact (Candidate.slide_terminal element filled together).symm

/-- What a terminal finds from a position slides as a whole. -/
theorem terminals_slide (grounded : Grounded grammar.case grammar.elements)
    (inert : Inert grammar tokens filler place) (unlimited : options.skipBudget = .unlimited)
    (present : kindOf? grammar.elements element = some kind) (position : Nat) :
    (Search.of grammar options (tokens.insertIdx place filler)).terminals element kind
        (slidePosition place position) =
      ((Search.of grammar options tokens).terminals element kind position).map
        (Candidate.slide place) := by
  have longer : (Search.of grammar options (tokens.insertIdx place filler)).length =
      tokens.length + 1 := by
    rw [Search.of_length, List.length_insertIdx, if_pos inert.inside]
  have items := MatchSpan.flatMap_places_slide
    (fun start =>
      ((Search.of grammar options (tokens.insertIdx place filler)).terminalEnds kind start).map
        (Candidate.terminal element start))
    (by rw [inert.terminalEnds_filler grounded present, List.map_nil]) inert.inside position
  simp only [inert.map_terminal_slide grounded present, ← List.map_flatMap] at items
  rw [Search.terminals, Search.starts, Search.of_budget, unlimited, SkipBudget.searchLimit, longer]
  refine (congrArg _ items).trans ?_
  rw [Search.terminals, Search.starts, Search.of_budget, unlimited, SkipBudget.searchLimit,
    Search.of_length]
  have nothing : ∀ item ∈ [], Slides Candidate.extent place (Candidate.slide place) item := by simp
  refine offerAll_map nothing fun item member => ?_
  obtain ⟨start, -, listed⟩ := List.mem_flatMap.1 member
  obtain ⟨stop, ends, rfl⟩ := List.mem_map.1 listed
  obtain ⟨filled, -⟩ := inert.window grounded present ends
  refine ⟨Candidate.slide_extent _ _, ?_, ?_⟩
  · simp only [Candidate.terminal]
    omega
  · intro nothing
    simp only [Candidate.terminal] at nothing
    omega

end Inert

end Utterance

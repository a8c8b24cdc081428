import Utterance.Proofs.Prospect

/-!
# Roots behind tokens in front

With a limit on noise the roots are what is found from the first token, merged with what is found
from each further one (`Search.merge`). From behind the tokens in front that is what is found
without them, moved back (`Search.afresh_back`). From among them, all of what the sentence has from
its first token is found or nothing (`Search.afresh_front`), if no match that they put out of reach
has a rival: a match that starts earlier and would keep the first place (`Grammar.Unrivalled`). Then
the roots are those of the sentence, in their order: `Grammar.roots_back`.
-/
namespace Utterance

namespace Search

/-- What is found from one position, with what is found from further ones offered to it, unless it
is empty. -/
def merge (found : List Candidate) (later : List (List Candidate)) : List Candidate :=
  later.foldl (fun found answers => offerAll Candidate.extent found (answers.filter fun candidate =>
    !candidate.isEmpty)) found

section

variable {ahead : Nat} {found held : List Candidate} {later : List (List Candidate)}

/-- More is offered after what is offered before. -/
theorem merge_append (found : List Candidate) (later more : List (List Candidate)) :
    merge found (later ++ more) = merge (merge found later) more := List.foldl_append

/-- Candidates that are clear move back before they are merged or after. -/
theorem map_merge_back (clear : ∀ candidate ∈ found, candidate.extent.Clear ahead 0)
    (each : ∀ answers ∈ later, ∀ candidate ∈ answers,
      ∃ position, candidate.extent.Clear ahead position) :
    (merge found later).map (Candidate.back ahead) =
      merge (found.map (Candidate.back ahead)) (later.map (List.map (Candidate.back ahead))) := by
  induction later generalizing found with
  | nil => rfl
  | cons answers rest hypothesis =>
    have others := fun other member => each other (List.mem_cons_of_mem _ member)
    have filled : ∀ candidate ∈ answers.filter (fun candidate => !candidate.isEmpty),
        candidate.extent.Clear ahead 0 := by
      intro candidate member
      obtain ⟨inside, shown⟩ := List.mem_filter.1 member
      obtain ⟨position, cases⟩ := each answers List.mem_cons_self candidate inside
      have start : candidate.start = candidate.extent.start := rfl
      have stop : candidate.stop = candidate.extent.stop := rfl
      simp only [Candidate.isEmpty, Bool.not_eq_true', decide_eq_false_iff_not] at shown
      unfold Extent.Clear at cases ⊢
      omega
    have passed : (answers.filter fun candidate => !candidate.isEmpty).map (Candidate.back ahead) =
        (answers.map (Candidate.back ahead)).filter fun candidate => !candidate.isEmpty := by
      rw [List.filter_map]
      congr 1
      refine List.filter_congr fun candidate member => ?_
      obtain ⟨position, cases⟩ := each answers List.mem_cons_self candidate member
      rw [Function.comp, (Candidate.behind_of_clear cases).isEmpty_back]
    have grown : ∀ candidate ∈ offerAll Candidate.extent found (answers.filter fun candidate =>
        !candidate.isEmpty), candidate.extent.Clear ahead 0 := by
      intro candidate member
      exact (mem_of_mem_offerAll member).elim (clear candidate) (filled candidate)
    rw [List.map_cons, merge, merge, List.foldl_cons, List.foldl_cons, ← merge, ← merge,
      hypothesis grown others, ← passed,
      map_offerAll_back_held (Candidate.back_extent ahead) 0 clear filled]

/-- Merging the same candidates again and again, and nothing in between, changes nothing. -/
theorem merge_eq_self (distinct : (held.map Candidate.stop).Nodup)
    (each : ∀ answers ∈ later, answers = [] ∨ answers = held) : merge held later = held := by
  induction later with
  | nil => rfl
  | cons answers rest hypothesis =>
    have first : offerAll Candidate.extent held (answers.filter fun candidate =>
        !candidate.isEmpty) = held := by
      rcases each answers List.mem_cons_self with rfl | rfl
      · rfl
      · exact offerAll_eq_self distinct fun candidate member =>
          ⟨candidate, List.mem_of_mem_filter member, rfl, .refl _⟩
    rw [merge, List.foldl_cons, first]
    exact hypothesis fun other member => each other (List.mem_cons_of_mem _ member)

/-- Merging the same candidates, none of them empty, and nothing before and in between gives these
candidates. -/
theorem merge_nil_eq (distinct : (held.map Candidate.stop).Nodup)
    (filled : ∀ candidate ∈ held, candidate.isEmpty = false)
    (each : ∀ answers ∈ later, answers = [] ∨ answers = held) (some : held ∈ later) :
    merge [] later = held := by
  induction later with
  | nil => exact absurd some (by simp)
  | cons answers rest hypothesis =>
    have others := fun other member => each other (List.mem_cons_of_mem _ member)
    by_cases first : answers = held
    · have all : held.filter (fun candidate => !candidate.isEmpty) = held :=
        List.filter_eq_self.2 fun candidate member => by rw [filled candidate member]; rfl
      have fresh : offerAll Candidate.extent [] held = held := offerAll_eq_append distinct
      rw [merge, List.foldl_cons, first, all, fresh]
      exact merge_eq_self distinct others
    · have none : answers = [] := (each answers List.mem_cons_self).resolve_right first
      rw [merge, List.foldl_cons, none]
      exact hypothesis others ((List.mem_cons.1 some).resolve_left (Ne.symm first))

end

end Search

/-- Whether no match of the start symbol that some tokens in front put out of reach of the first one
has a rival that starts at another token, or is empty. -/
def Grammar.Unrivalled (grammar : Grammar) (count ahead : Nat) (tokens : List Token) : Prop :=
  ∀ leaf rest stop,
    Matches grammar (.limited count) tokens grammar.root 0 (leaf :: rest) stop →
    count < ahead + leaf.start → ∀ rival last,
      Matches grammar (.limited count) tokens grammar.root 0 rival last →
        rival.head?.map Leaf.start = some leaf.start

/-- Without any noise allowed no match has a rival, unless the start symbol has an empty match: all
start with the first token. -/
theorem Grammar.unrivalled_of_strict {grammar : Grammar}
    (grounded : Grounded grammar.case grammar.elements)
    (filled : elementNullable grammar.elements grammar.root = false) (ahead : Nat)
    (tokens : List Token) : grammar.Unrivalled 0 ahead tokens := by
  have first : ∀ leaf rest stop,
      Matches grammar (.limited 0) tokens grammar.root 0 (leaf :: rest) stop → leaf.start = 0 := by
    intro leaf rest stop matched
    have near := (matched.near grounded).1
    rw [SkipBudget.searchLimit] at near
    omega
  intro leaf rest stop matched _ rival last other
  rw [first leaf rest stop matched]
  cases rival with
  | nil =>
    rw [other.nullable grounded rfl] at filled
    exact absurd filled (by simp)
  | cons head tail => exact congrArg some (first head tail last other)

section

variable {grammar : Grammar} {options : MatchOptions} {fillers tokens : List Token}
  {element position count : Nat}

/-- From behind the tokens in front what is found is what is found without them, moved back. -/
theorem Search.afresh_back (preceded : Preceded grammar fillers tokens) (options : MatchOptions)
    (element : Nat) (behind : fillers.length ≤ position) :
    ((Search.of grammar options (fillers ++ tokens)).afresh element position).map
        (Candidate.back fillers.length) =
      (Search.of grammar options tokens).afresh element (position - fillers.length) := by
  have agree := retreats preceded options element position (fun _ => true)
    fun _ _ matched _ => matched.inReach preceded behind
  simpa [AgreeOn] using agree

/-- From among the tokens in front nothing is found, if all matches start at one token that is out
of reach. -/
theorem Search.afresh_eq_nil (preceded : Preceded grammar fillers tokens)
    (front : position ≤ fillers.length) {start : Nat}
    (same : ∀ leaves stop, Matches grammar options.skipBudget tokens element 0 leaves stop →
      leaves.head?.map Leaf.start = some start)
    (far : options.skipBudget.searchLimit position (fillers.length + tokens.length) ≤
      fillers.length + start) :
    (Search.of grammar options (fillers ++ tokens)).afresh element position = [] := by
  have grounded := preceded.grounded
  rw [List.eq_nil_iff_forall_not_mem]
  intro candidate member
  obtain ⟨leaves, matched⟩ := exists_matches grounded member
  have moved := matched.back grounded preceded.foreign preceded.countable
  rw [Nat.sub_eq_zero_of_le front] at moved
  have first := same _ _ moved
  cases leaves with
  | nil => exact absurd first (by simp)
  | cons head tail =>
    have level : head.start - fillers.length = start := Option.some.inj first
    have behind := matched.length_le grounded preceded.foreign head List.mem_cons_self
    have near := (matched.near grounded).1
    rw [List.length_append] at near
    omega

/-- From among the tokens in front either everything is found that is found without them, or
nothing, if late matches have no rivals. -/
theorem Search.afresh_front (preceded : Preceded grammar fillers tokens)
    (limited : options.skipBudget = .limited count)
    (unrivalled : grammar.Unrivalled count fillers.length tokens)
    (front : position ≤ fillers.length) :
    ((Search.of grammar options (fillers ++ tokens)).afresh grammar.root position).map
        (Candidate.back fillers.length) = (Search.of grammar options tokens).afresh grammar.root 0 ∨
      ((Search.of grammar options (fillers ++ tokens)).afresh grammar.root position = [] ∧
        tokens ≠ [] ∧ ∀ candidate ∈ (Search.of grammar options tokens).afresh grammar.root 0,
          candidate.isEmpty = false) := by
  have grounded := preceded.grounded
  have start : position - fillers.length = 0 := Nat.sub_eq_zero_of_le front
  by_cases near : ∀ leaves stop,
      Matches grammar options.skipBudget tokens grammar.root 0 leaves stop →
      Leaf.InReach options.skipBudget fillers.length tokens.length position leaves
  · have agree := retreats preceded options grammar.root position (fun _ => true)
      fun leaves stop matched _ => near leaves stop (by rwa [start] at matched)
    rw [start] at agree
    exact Or.inl (by simpa [AgreeOn] using agree)
  · simp only [Leaf.InReach, not_forall, Nat.not_lt] at near
    obtain ⟨leaves, stop, matched, leaf, first, far⟩ := near
    obtain ⟨rest, rfl⟩ := List.head?_eq_some_iff.1 first
    have inside := matched.position_lt grounded (List.cons_ne_nil leaf rest)
    have early := (matched.near grounded).1
    have countable := preceded.countable
    have same : ∀ leaves stop,
        Matches grammar options.skipBudget tokens grammar.root 0 leaves stop →
          leaves.head?.map Leaf.start = some leaf.start := by
      rw [limited] at matched early far ⊢
      refine unrivalled leaf rest stop matched ?_
      rw [SkipBudget.searchLimit] at early far
      generalize maxCount = most at countable early far
      omega
    refine Or.inr ⟨afresh_eq_nil preceded front same far, List.length_pos_iff.1 inside, ?_⟩
    intro candidate member
    have sound := (afresh_solved grounded options tokens grammar.root 0).sound candidate member
    rw [← Bool.not_eq_true, sound.isEmpty_iff grounded]
    intro none
    have read := same _ _ (sound.reads grounded).matched
    change (candidate.leaves grammar tokens).head?.map Leaf.start = _ at read
    rw [none] at read
    exact absurd read (by simp)

variable {declaration : Declaration}

/-- Under a limit on noise, and with the first parse first, the roots are what is found from the
first token, merged with what is found from further ones. -/
theorem Grammar.roots_eq_merge (built : declaration.build = .ok grammar)
    (unlimited : options.maxMemoEntries = none) (limited : options.skipBudget = .limited count)
    (mode : options.mode = .first) (tokens : List Token) :
    grammar.roots options tokens =
      Search.merge ((Search.of grammar options tokens).afresh grammar.root 0)
        ((List.range' 1 (tokens.length - 1)).map
          ((Search.of grammar options tokens).afresh grammar.root)) := by
  rw [roots_eq_afresh built unlimited, Search.run_rootStep_limited limited, mode, Search.merge,
    List.foldl_map, Search.of_length]
  rfl

/-- What is found from among the tokens in front, merged, is what is found without them from the
first token. -/
theorem Search.merge_front (preceded : Preceded grammar fillers tokens)
    (limited : options.skipBudget = .limited count)
    (unrivalled : grammar.Unrivalled count fillers.length tokens) {last : Nat}
    (front : last ≤ fillers.length) (all : tokens ≠ [] → last = fillers.length) :
    merge (((Search.of grammar options (fillers ++ tokens)).afresh grammar.root 0).map
        (Candidate.back fillers.length))
      ((List.range' 1 last).map fun position =>
        ((Search.of grammar options (fillers ++ tokens)).afresh grammar.root position).map
          (Candidate.back fillers.length)) =
      (Search.of grammar options tokens).afresh grammar.root 0 := by
  let near := (Search.of grammar options tokens).afresh grammar.root 0
  let far := fun position =>
    ((Search.of grammar options (fillers ++ tokens)).afresh grammar.root position).map
      (Candidate.back fillers.length)
  have distinct : (near.map Candidate.stop).Nodup :=
    (afresh_solved preceded.grounded options tokens grammar.root 0).distinct
  have each : ∀ answers ∈ (List.range' 1 last).map far, answers = [] ∨ answers = near := by
    intro answers member
    obtain ⟨position, listed, rfl⟩ := List.mem_map.1 member
    rw [List.mem_range'_1] at listed
    rcases afresh_front preceded limited unrivalled (by omega : position ≤ fillers.length) with
      same | ⟨none, -⟩
    · exact Or.inr same
    · exact Or.inl (List.map_eq_nil_iff.2 none)
  have whole : far fillers.length = near := by
    have moved : far fillers.length = _ := afresh_back preceded options grammar.root (Nat.le_refl _)
    rwa [Nat.sub_self] at moved
  show merge (far 0) ((List.range' 1 last).map far) = near
  by_cases first : far 0 = near
  · rw [first]
    exact merge_eq_self distinct each
  · obtain ⟨none, some, filled⟩ :=
      (afresh_front preceded limited unrivalled (Nat.zero_le _)).resolve_left first
    have nothing : far 0 = [] := List.map_eq_nil_iff.2 none
    have positive : fillers.length ≠ 0 := by
      intro zero
      rw [zero] at whole
      exact first whole
    rw [nothing]
    refine merge_nil_eq distinct filled each (List.mem_map.2 ⟨fillers.length, ?_, whole⟩)
    rw [all some, List.mem_range'_1]
    omega

/-- If late matches have no rivals, the roots behind tokens in front are those without them, moved
back. -/
theorem Grammar.roots_back (built : declaration.build = .ok grammar)
    (unlimited : options.maxMemoEntries = none) (limited : options.skipBudget = .limited count)
    (mode : options.mode = .first) (preceded : Preceded grammar fillers tokens)
    (unrivalled : grammar.Unrivalled count fillers.length tokens) :
    (grammar.roots options (fillers ++ tokens)).map (Candidate.back fillers.length) =
      grammar.roots options tokens := by
  have clear : ∀ position,
      ∀ candidate ∈ (Search.of grammar options (fillers ++ tokens)).afresh grammar.root position,
        candidate.extent.Clear fillers.length position := fun _ _ member => preceded.clear member
  have each : ∀ answers ∈ (List.range' 1 ((fillers ++ tokens).length - 1)).map
      ((Search.of grammar options (fillers ++ tokens)).afresh grammar.root),
      ∀ candidate ∈ answers, ∃ position, candidate.extent.Clear fillers.length position := by
    intro answers listed candidate member
    obtain ⟨position, -, rfl⟩ := List.mem_map.1 listed
    exact ⟨position, clear position candidate member⟩
  rw [roots_eq_merge built unlimited limited mode, roots_eq_merge built unlimited limited mode,
    Search.map_merge_back (clear 0) each, List.map_map, List.length_append]
  by_cases none : tokens = []
  · have front := Search.merge_front preceded limited unrivalled (Nat.sub_le fillers.length 1)
      fun some => absurd none some
    rw [none] at front ⊢
    exact front
  · have positive : 1 ≤ tokens.length := List.length_pos_iff.2 none
    have front := Search.merge_front preceded limited unrivalled (Nat.le_refl fillers.length)
      fun _ => rfl
    have positions : List.range' 1 (fillers.length + tokens.length - 1) =
        List.range' 1 fillers.length ++
          (List.range' 1 (tokens.length - 1)).map (fillers.length + ·) := by
      rw [List.map_add_range', Nat.add_comm fillers.length 1, List.range'_append_1,
        Nat.add_sub_assoc positive]
    have behind : ((List.range' 1 (tokens.length - 1)).map (fillers.length + ·)).map
          (List.map (Candidate.back fillers.length) ∘
            (Search.of grammar options (fillers ++ tokens)).afresh grammar.root) =
        (List.range' 1 (tokens.length - 1)).map
          ((Search.of grammar options tokens).afresh grammar.root) := by
      rw [List.map_map]
      refine List.map_congr_left fun position _ => ?_
      have moved := Search.afresh_back preceded options grammar.root
        (Nat.le_add_right fillers.length position)
      rw [Nat.add_sub_cancel_left] at moved
      exact moved
    rw [positions, List.map_append, behind, Search.merge_append]
    exact congrArg (Search.merge · _) front

end

end Utterance

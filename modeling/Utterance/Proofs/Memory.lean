import Mathlib.Data.List.Perm.Subperm
import Mathlib.Data.List.ProdSigma
import Utterance.Proofs.Representation
import Utterance.Proofs.Trees
import Utterance.Search.Plain

/-!
# What is remembered

A search keeps the candidates that it found for an element at a position, and looks there before it
searches again. With room for all of them this changes how long a search takes and nothing else:
every answer is the one that the same steps give without memory. A step that asks a memory whose
answers are exact gives what it gives from these answers (`Search.step_follows`), and remembering
that keeps the memory exact (`Memo.Exact.insert`), so `Grammar.memory_changes_no_answer` follows by
induction on the depth of the elements. The pair that is being solved stays free until its answer is
known, and so it gets one entry.
-/
namespace Utterance

/-- Whether a computation gives what a computation without state gives, which has a property, and
keeps a state of some kind. -/
def Follows {σ α : Type} (kept : σ → Prop) (holds : α → Prop) (program : StateM σ α)
    (pattern : Id α) : Prop :=
  Yields kept (fun value => value = pattern.run ∧ holds value) program

namespace Follows

variable {σ α β : Type} {kept : σ → Prop} {holds : α → Prop} {program : StateM σ α}
  {pattern : Id α}

/-- A value follows itself. -/
theorem pure {value : α} (held : holds value) :
    Follows kept holds (Pure.pure value) (Pure.pure value) :=
  Yields.pure ⟨rfl, held⟩

/-- A computation may go on with what another one gives. -/
theorem bind {next : α → StateM σ β} {after : α → Id β} {final : β → Prop}
    (first : Follows kept holds program pattern)
    (rest : ∀ value, holds value → Follows kept final (next value) (after value)) :
    Follows kept final (program >>= next) (pattern >>= after) := by
  refine Yields.bind first ?_
  rintro value ⟨rfl, held⟩
  exact rest _ held

/-- A loop follows another if each round does. -/
theorem foldlM {step : β → α → StateM σ β} {after : β → α → Id β} {items : List α} {first : β}
    {holds : β → Prop} (initial : holds first)
    (round : ∀ value, ∀ item ∈ items, holds value →
      Follows kept holds (step value item) (after value item)) :
    Follows kept holds (items.foldlM step first) (items.foldlM after first) := by
  induction items generalizing first with
  | nil => exact .pure initial
  | cons item rest hypothesis =>
    rw [List.foldlM_cons, List.foldlM_cons]
    refine (round first item List.mem_cons_self initial).bind fun value reached => ?_
    exact hypothesis reached fun other next member =>
      round other next (List.mem_cons_of_mem _ member)

end Follows

/-- Roots in the order of a mode. -/
def ParseMode.arrange (found : List Candidate) : ParseMode → List Candidate
  | .first => found
  | .widest => found.mergeSort fun left right => !right.extent.outranks left.extent

namespace Search

/-- A way to solve elements that has the answers at hand. -/
abbrev told (answer : Nat → Nat → List Candidate) : Nat → Nat → Id (List Candidate) :=
  fun element position => pure (answer element position)

section

variable {σ : Type} {kept : σ → Prop} {within : Nat → Prop}
  {solve : Nat → Nat → StateM σ (List Candidate)} {answer : Nat → Nat → List Candidate}
  {element inner position : Nat}

/-- Whether a way to solve an element gives known answers from the positions of a range, where these
answers stop in the range. -/
def Gives (kept : σ → Prop) (within : Nat → Prop)
    (solve : Nat → Nat → StateM σ (List Candidate)) (answer : Nat → Nat → List Candidate)
    (element : Nat) : Prop :=
  ∀ position, within position →
    Follows kept (fun found => ∀ candidate ∈ found, within candidate.stop)
      (solve element position) (told answer element position)

/-- Chains are extended by the answers that are known. -/
theorem extendChains_follows (gives : Gives kept within solve answer element)
    (keep : Chain → Candidate → Bool) {chains : List Chain}
    (inside : ∀ chain ∈ chains, within chain.stop) :
    Follows kept (fun found => ∀ chain ∈ found, within chain.stop)
      (extendChains solve element keep chains)
      (extendChains (told answer) element keep chains) := by
  refine Follows.foldlM (by simp) fun found chain member held => ?_
  refine (gives chain.stop (inside chain member)).bind fun candidates stops => .pure ?_
  intro item chosen
  rcases mem_of_mem_offerAll chosen with before | listed
  · exact held item before
  · obtain ⟨candidate, passed, rfl⟩ := List.mem_map.1 listed
    exact stops candidate (List.mem_of_mem_filter passed)

/-- A sequence is made of the answers that are known. -/
theorem sequenceStep_follows {children : List Nat}
    (gives : ∀ child ∈ children, Gives kept within solve answer child) (inside : within position)
    (element : Nat) :
    Follows kept (fun _ => True) (sequenceStep solve element children position)
      (sequenceStep (told answer) element children position) := by
  have loop : Follows kept (fun found => ∀ chain ∈ found, within chain.stop)
      (children.foldlM (fun chains child => extendChains solve child (fun _ _ => true) chains)
        [.empty position])
      (children.foldlM
        (fun chains child => extendChains (told answer) child (fun _ _ => true) chains)
        [.empty position]) := by
    refine Follows.foldlM (by simpa [Chain.empty] using inside) fun chains child member held => ?_
    exact extendChains_follows (gives child member) _ held
  exact loop.bind fun chains _ => .pure True.intro

/-- A choice is made of the answers that are known. -/
theorem choiceStep_follows {children : List Nat}
    (gives : ∀ child ∈ children, Gives kept within solve answer child) (inside : within position)
    (order : ChoiceOrder) (element : Nat) :
    Follows kept (fun _ => True) (choiceStep order solve element children position)
      (choiceStep order (told answer) element children position) := by
  refine Follows.bind (show Follows kept (fun _ => True) _ _ from .foldlM True.intro ?_)
    fun found _ => .pure True.intro
  intro found child member _
  exact (gives child member position inside).bind fun candidates _ => .pure True.intro

/-- Levels are stacked from the answers that are known. -/
theorem levels_follows (gives : Gives kept within solve answer inner) (least : Nat)
    (most : Option Nat) (fuel : Nat) {found : List (List Chain)}
    (inside : ∀ level ∈ found, ∀ chain ∈ level, within chain.stop) :
    Follows kept (fun _ => True) (levels solve inner least most fuel found)
      (levels (told answer) inner least most fuel found) := by
  induction fuel generalizing found with
  | zero => exact .pure True.intro
  | succ fuel hypothesis =>
    rw [levels, levels]
    by_cases many : most.any (· < found.length) = true
    · rw [if_pos many, if_pos many]
      exact .pure True.intro
    · rw [if_neg many, if_neg many]
      have highest : ∀ chain ∈ found.headD [], within chain.stop := by
        cases found with
        | nil => simp
        | cons level below => exact inside level List.mem_cons_self
      refine (extendChains_follows gives _ highest).bind fun next grown => ?_
      by_cases stuck : next.isEmpty = true
      · rw [if_pos stuck, if_pos stuck]
        exact .pure True.intro
      · rw [if_neg stuck, if_neg stuck]
        exact hypothesis (List.forall_mem_cons.2 ⟨grown, inside⟩)

/-- The step of an element gives what it gives with the answers for its children at hand. -/
theorem step_follows {search : Search}
    (gives : ∀ kind, kindOf? search.elements element = some kind → ∀ child ∈ kind.children,
      Gives kept within solve answer child) (inside : within position) :
    Follows kept (fun _ => True) (search.step solve element position)
      (search.step (told answer) element position) := by
  have kinds : search.elements[element]?.map Element.kind = kindOf? search.elements element := rfl
  rw [step, step, kinds]
  cases present : kindOf? search.elements element with
  | none => exact .pure True.intro
  | some kind =>
    have children := gives kind present
    cases kind with
    | literals set => exact .pure True.intro
    | pattern matcher => exact .pure True.intro
    | sequence ids => exact sequenceStep_follows children inside element
    | choice ids => exact choiceStep_follows children inside search.order element
    | optional inner =>
      exact (children inner List.mem_cons_self position inside).bind fun _ _ => .pure True.intro
    | repetition inner min max =>
      have base : ∀ level ∈ [[Chain.empty position]], ∀ chain ∈ level, within chain.stop := by
        simpa [Chain.empty] using inside
      exact (levels_follows (children inner List.mem_cons_self) _ max _ base).bind
        fun _ _ => .pure True.intro

/-- The search for the start symbol gives what it gives with the answers at hand. -/
theorem rootStep_follows {search : Search} {root : Nat}
    (gives : Gives kept within solve answer root) (mode : ParseMode) (first : within 0)
    (others : ∀ position ∈ List.range' 1 (search.length - 1), within position) :
    Follows kept (fun _ => True) (search.rootStep solve mode root)
      (search.rootStep (told answer) mode root) := by
  refine (gives 0 first).bind fun found _ => ?_
  cases search.budget with
  | unlimited => exact .pure True.intro
  | limited count =>
    refine Follows.bind (show Follows kept (fun _ => True) _ _ from .foldlM True.intro ?_)
      fun _ _ => .pure True.intro
    intro found position member _
    exact (gives position (others position member)).bind fun _ _ => .pure True.intro

end

/-- Without a limit on noise the roots are the answers from the first token. -/
theorem run_rootStep_unlimited {search : Search} (free : search.budget = .unlimited)
    (answer : Nat → Nat → List Candidate) (mode : ParseMode) (root : Nat) :
    (search.rootStep (told answer) mode root).run = mode.arrange (answer root 0) := by
  rw [rootStep, free]
  rfl

/-- With a limit on noise the answers from further tokens are offered to those from the first. -/
theorem run_rootStep_limited {search : Search} {count : Nat}
    (bound : search.budget = .limited count) (answer : Nat → Nat → List Candidate)
    (mode : ParseMode) (root : Nat) :
    (search.rootStep (told answer) mode root).run =
      mode.arrange ((List.range' 1 (search.length - 1)).foldl (fun found position =>
        offerAll Candidate.extent found ((answer root position).filter fun candidate =>
          !candidate.isEmpty)) (answer root 0)) := by
  rw [List.foldl_eq_foldlM, rootStep, bound]
  rfl

/-- A way to solve elements that only gives answers at hand gives any that are the same. -/
theorem gives_of_eq {left right : Nat → Nat → List Candidate} {element : Nat}
    (same : ∀ next, left element next = right element next) :
    Gives (fun _ : Unit => True) (fun _ => True) (fun child next => pure (left child next)) right
      element := by
  intro position _
  rw [told, ← same position]
  exact .pure fun _ _ => True.intro

/-- A step from answers at hand is the same with a state that is never looked at. -/
theorem run_step_eq {search : Search} {left right : Nat → Nat → List Candidate} {element : Nat}
    (same : ∀ kind, kindOf? search.elements element = some kind → ∀ child ∈ kind.children,
      ∀ next, left child next = right child next) (position : Nat) :
    ((search.step (fun child next => (pure (left child next) : StateM Unit (List Candidate)))
      element position).run ()).1 = (search.step (told right) element position).run := by
  have follows : Follows (fun _ : Unit => True) (fun _ => True)
      (search.step (fun child next => pure (left child next)) element position)
      (search.step (told right) element position) :=
    step_follows (fun kind present child member => gives_of_eq (same kind present child member))
      True.intro
  exact (follows () True.intro).1.1

/-- The plain search finds the same to any depth that suffices. -/
theorem plain_eq_of_lt {search : Search}
    (below : ∀ element kind, kindOf? search.elements element = some kind →
      ∀ child ∈ kind.children, child < element) {element depth : Nat} (position : Nat)
    (less : element < depth) :
    search.plain depth element position = search.plain (element + 1) element position := by
  induction element using Nat.strongRecOn generalizing depth position with
  | ind element hypothesis =>
  cases depth with
  | zero => exact absurd less (Nat.not_lt_zero _)
  | succ depth =>
    have same : ∀ kind, kindOf? search.elements element = some kind → ∀ child ∈ kind.children,
        ∀ next, search.plain depth child next = search.plain element child next := by
      intro kind present child member next
      have earlier := below element kind present child member
      rw [hypothesis child earlier next (by omega), hypothesis child earlier next earlier]
    rw [plain, plain]
    exact (run_step_eq (fun _ _ _ _ _ => rfl) position).symm.trans (run_step_eq same position)

variable {grammar : Grammar} {options : MatchOptions} {tokens : List Token}

/-- What the plain search finds is solved. -/
theorem plain_solved (grounded : Grounded grammar.case grammar.elements) (options : MatchOptions)
    (tokens : List Token) (depth : Nat) :
    ∀ element position, element < depth ∨ kindOf? grammar.elements element = none →
      Solved grammar options.skipBudget tokens none element position
        ((Search.of grammar options tokens).plain depth element position) := by
  induction depth with
  | zero =>
    intro element position reach
    exact .absent (reach.resolve_left (Nat.not_lt_zero _)) position
  | succ depth hypothesis =>
    intro element position reach
    have children : ∀ kind, kindOf? grammar.elements element = some kind →
        ∀ child ∈ kind.children, ∀ next,
        Yields (fun _ : Unit => True) (Solved grammar options.skipBudget tokens none child next)
          (pure ((Search.of grammar options tokens).plain depth child next)) := by
      intro kind present child member next
      refine .pure (hypothesis child next (Or.inl ?_))
      have earlier := grounded.child_lt present member
      rcases reach with inside | missing
      · omega
      · exact absurd (missing.symm.trans present) (by simp)
    have answers : (Search.of grammar options tokens).Answers
        (Solved grammar options.skipBudget tokens none) element position _ :=
      (step_yields children position () True.intro).1
    rw [run_step_eq fun _ _ _ _ _ => rfl] at answers
    exact answers.solved grounded

/-- The candidates that are found without memory, to the depth that suffices. -/
def afresh (search : Search) (element position : Nat) : List Candidate :=
  search.plain (element + 1) element position

/-- What is found without memory is solved. -/
theorem afresh_solved (grounded : Grounded grammar.case grammar.elements) (options : MatchOptions)
    (tokens : List Token) (element position : Nat) :
    Solved grammar options.skipBudget tokens none element position
      ((Search.of grammar options tokens).afresh element position) :=
  plain_solved grounded options tokens (element + 1) element position
    (Or.inl (Nat.lt_succ_self element))

/-- What is found without memory is what a step makes of what is found for the children. -/
theorem run_step_afresh {search : Search}
    (below : ∀ element kind, kindOf? search.elements element = some kind →
      ∀ child ∈ kind.children, child < element) (element position : Nat) :
    (search.step (told search.afresh) element position).run = search.afresh element position := by
  have same : ∀ kind, kindOf? search.elements element = some kind → ∀ child ∈ kind.children,
      ∀ next, search.plain element child next = search.afresh child next :=
    fun kind present child member next =>
      plain_eq_of_lt below next (below element kind present child member)
  exact (run_step_eq same position).symm.trans (run_step_eq (fun _ _ _ _ _ => rfl) position)

/-- What is found without memory from a position among the tokens stops among them. -/
theorem stop_le_of_mem_afresh (grounded : Grounded grammar.case grammar.elements)
    {element position : Nat} (inside : position ≤ tokens.length) {candidate : Candidate}
    (member : candidate ∈ (Search.of grammar options tokens).afresh element position) :
    candidate.stop ≤ tokens.length := by
  have solved := afresh_solved grounded options tokens element position
  have matched := ((solved.sound candidate member).reads grounded).matched
  have within := matched.stop_le grounded
  omega

end Search

namespace Memo

/-- Whether a memory still has the entries of before, holds for each pair what is found without
memory, has one entry for a pair and only for pairs that exist, and none for pairs that are free. -/
structure Exact (search : Search) (earlier : List ((Nat × Nat) × List Candidate))
    (free : Nat × Nat → Prop) (memo : Memo) : Prop where
  /-- The entries of before are the first that were made. -/
  keeps : earlier <:+ memo.entries
  /-- Each entry is what is found without memory. -/
  exact : ∀ entry ∈ memo.entries, entry.2 = search.afresh entry.1.1 entry.1.2
  /-- Each entry is for an element and a position that exist. -/
  inside : ∀ entry ∈ memo.entries,
    entry.1.1 < search.elements.length ∧ entry.1.2 ≤ search.length
  /-- No pair has two entries. -/
  distinct : (memo.entries.map (·.1)).Nodup
  /-- No pair that is free has an entry. -/
  unsolved : ∀ entry ∈ memo.entries, ¬ free entry.1

namespace Exact

variable {search : Search} {earlier : List ((Nat × Nat) × List Candidate)}
  {free : Nat × Nat → Prop} {memo : Memo} {element position : Nat}

/-- A pair that is not found is free. -/
theorem reserve (exact : Exact search earlier free memo)
    (missing : memo.find? element position = none) :
    Exact search earlier (fun pair => free pair ∨ pair = (element, position)) memo := by
  refine { exact with unsolved := ?_ }
  rintro entry listed (taken | same)
  · exact exact.unsolved entry listed taken
  · have absent := List.lookup_eq_none_iff.1 missing entry listed
    simp [same] at absent

/-- The answer for a pair that is free may be remembered. -/
theorem insert
    (exact : Exact search earlier (fun pair => free pair ∨ pair = (element, position)) memo)
    (present : element < search.elements.length) (inside : position ≤ search.length)
    (later : ∀ pair, free pair → element < pair.1) :
    Exact search earlier free
      (memo.insert element position (search.afresh element position)) := by
  refine ⟨exact.keeps.trans (List.suffix_cons _ _), ?_, ?_, ?_, ?_⟩
  · exact List.forall_mem_cons.2 ⟨rfl, exact.exact⟩
  · exact List.forall_mem_cons.2 ⟨⟨present, inside⟩, exact.inside⟩
  · refine List.nodup_cons.2 ⟨fun listed => ?_, exact.distinct⟩
    obtain ⟨entry, member, same⟩ := List.mem_map.1 listed
    exact exact.unsolved entry member (Or.inr same)
  · refine List.forall_mem_cons.2 ⟨fun taken => ?_, fun entry listed taken => ?_⟩
    · exact Nat.lt_irrefl _ (later _ taken)
    · exact exact.unsolved entry listed (Or.inl taken)

/-- There are no more entries than pairs of element and position. -/
theorem size_le (exact : Exact search earlier free memo) :
    memo.size ≤ search.elements.length * (search.length + 1) := by
  have listed : memo.entries.map (·.1) ⊆
      List.range search.elements.length ×ˢ List.range (search.length + 1) := by
    intro pair member
    obtain ⟨entry, held, rfl⟩ := List.mem_map.1 member
    obtain ⟨present, inside⟩ := exact.inside entry held
    rw [List.mem_product, List.mem_range, List.mem_range]
    exact ⟨present, Nat.lt_succ_of_le inside⟩
  have fewer := (exact.distinct.subperm listed).length_le
  rw [List.length_map, List.length_product, List.length_range, List.length_range] at fewer
  exact fewer

/-- While a pair that exists has no entry, there is room for it under a limit that allows as many
entries as there are pairs. -/
theorem isFull_eq_false (exact : Exact search earlier free memo)
    (missing : memo.find? element position = none) (present : element < search.elements.length)
    (inside : position ≤ search.length) {limit : Option Nat}
    (ample : ∀ count, limit = some count →
      search.elements.length * (search.length + 1) ≤ count) : memo.isFull limit = false := by
  have unclaimed : Exact search earlier (fun _ => False) memo :=
    { exact with unsolved := fun _ _ taken => taken }
  have fewer := ((unclaimed.reserve missing).insert present inside (by simp)).size_le
  have one_more : (memo.insert element position (search.afresh element position)).size =
      memo.size + 1 := rfl
  cases limit with
  | none => rfl
  | some count =>
    have allowed := ample count rfl
    rw [isFull, Option.any_some, decide_eq_false_iff_not]
    omega

end Exact

end Memo

namespace Search

variable {grammar : Grammar} {options : MatchOptions} {tokens : List Token}
  {earlier : List ((Nat × Nat) × List Candidate)}

/-- A search whose memory has room for all pairs gives what is found without memory, and remembers
nothing else. -/
theorem solve_gives_of_ample (grounded : Grounded grammar.case grammar.elements)
    (options : MatchOptions) (tokens : List Token) {limit : Option Nat}
    (ample : ∀ count, limit = some count → grammar.size * (tokens.length + 1) ≤ count)
    (depth : Nat) :
    ∀ element < depth, element < grammar.elements.length →
      ∀ free : Nat × Nat → Prop, (∀ pair, free pair → element < pair.1) →
      Gives (Memo.Exact (Search.of grammar options tokens) earlier free) (· ≤ tokens.length)
        ((Search.of grammar options tokens).solve limit depth)
        (Search.of grammar options tokens).afresh element := by
  have below : ∀ element kind, kindOf? grammar.elements element = some kind →
      ∀ child ∈ kind.children, child < element :=
    fun _ _ present child member => grounded.child_lt present member
  induction depth with
  | zero => exact fun element less => absurd less (Nat.not_lt_zero _)
  | succ depth hypothesis =>
    intro element less present free later position inside memo exact
    have stops : ∀ candidate ∈ (Search.of grammar options tokens).afresh element position,
        candidate.stop ≤ tokens.length :=
      fun candidate member => stop_le_of_mem_afresh grounded inside member
    -- The pair stays free while the children are solved, since they come before the element.
    have children : ∀ kind,
        kindOf? (Search.of grammar options tokens).elements element = some kind →
        ∀ child ∈ kind.children,
        Gives (Memo.Exact (Search.of grammar options tokens) earlier
            fun pair => free pair ∨ pair = (element, position)) (· ≤ tokens.length)
          ((Search.of grammar options tokens).solve limit depth)
          (Search.of grammar options tokens).afresh child := by
      intro kind known child member
      have before := below element kind known child member
      refine hypothesis child (by omega) (by omega) _ ?_
      rintro pair (taken | rfl)
      · exact Nat.lt_trans before (later pair taken)
      · exact before
    unfold solve
    simp only [StateT.run_bind, StateT.run_get, pure_bind]
    cases lookup : memo.find? element position with
    | some found =>
      obtain ⟨front, back, split, -⟩ := List.lookup_eq_some_iff.1 lookup
      have recalled : found = (Search.of grammar options tokens).afresh element position :=
        exact.exact ((element, position), found) (by simp [split])
      rw [← recalled] at stops
      exact ⟨⟨recalled, stops⟩, exact⟩
    | none =>
      have room : memo.isFull limit = false := by
        refine exact.isFull_eq_false lookup present (by simpa using inside) ?_
        rw [of_length]
        exact ample
      obtain ⟨⟨answer, -⟩, kept⟩ := step_follows children inside memo (exact.reserve lookup)
      rw [run_step_afresh below] at answer
      simp only [room]
      have final := kept.insert present (by simpa using inside) later
      rw [← answer] at final stops
      exact ⟨⟨answer, stops⟩, final⟩

/-- A search with memory gives what is found without it, and remembers nothing else. -/
theorem solve_gives (grounded : Grounded grammar.case grammar.elements) (options : MatchOptions)
    (tokens : List Token) (depth : Nat) :
    ∀ element < depth, element < grammar.elements.length →
      ∀ free : Nat × Nat → Prop, (∀ pair, free pair → element < pair.1) →
      Gives (Memo.Exact (Search.of grammar options tokens) earlier free) (· ≤ tokens.length)
        ((Search.of grammar options tokens).solve none depth)
        (Search.of grammar options tokens).afresh element :=
  solve_gives_of_ample grounded options tokens (by simp) depth

/-- The memory after questions about elements and positions that exist is exact, if it was before.
-/
theorem foldl_exact (grounded : Grounded grammar.case grammar.elements) {asked : List (Nat × Nat)}
    (inside : ∀ pair ∈ asked, pair.1 < grammar.size ∧ pair.2 ≤ tokens.length) {memo : Memo}
    (exact : memo.Exact (Search.of grammar options tokens) earlier fun _ => False) :
    Memo.Exact (Search.of grammar options tokens) earlier (fun _ => False)
      (asked.foldl (fun memo pair =>
        (((Search.of grammar options tokens).candidates none pair.1 pair.2).run memo).2) memo) := by
  induction asked generalizing memo with
  | nil => exact exact
  | cons pair rest hypothesis =>
    obtain ⟨present, among⟩ := inside pair List.mem_cons_self
    have gives := solve_gives grounded options tokens _ pair.1 present present _
      (by simp) pair.2 among memo exact
    exact hypothesis (fun other member => inside other (List.mem_cons_of_mem _ member)) gives.2

/-- An empty memory is exact. -/
theorem exact_empty (search : Search) : Memo.Exact search [] (fun _ => False) {} :=
  ⟨List.suffix_refl _, by simp, by simp, by simp, by simp⟩

/-- An answer after questions about elements and positions that exist is what is found without
memory. -/
theorem candidatesAfter_eq_afresh (grounded : Grounded grammar.case grammar.elements)
    {asked : List (Nat × Nat)}
    (inside : ∀ pair ∈ asked, pair.1 < grammar.size ∧ pair.2 ≤ tokens.length)
    {element position : Nat} (present : element < grammar.size)
    (among : position ≤ tokens.length) :
    (Search.of grammar options tokens).candidatesAfter none asked element position =
      (Search.of grammar options tokens).afresh element position := by
  have exact := foldl_exact grounded inside (exact_empty (Search.of grammar options tokens))
  have gives := solve_gives grounded options tokens _ element present present _ (by simp) position
    among _ exact
  exact gives.1.1

end Search

namespace Grammar

variable {declaration : Declaration} {grammar : Grammar} {options : MatchOptions}

/-- With room in memory for all pairs, the roots are those of a search that remembers nothing. -/
theorem roots_eq_afresh_of_ample (built : declaration.build = .ok grammar) {tokens : List Token}
    (ample : ∀ count, options.maxMemoEntries = some count →
      grammar.size * (tokens.length + 1) ≤ count) :
    grammar.roots options tokens =
      ((Search.of grammar options tokens).rootStep
        (Search.told (Search.of grammar options tokens).afresh) options.mode grammar.root).run := by
  have grounded := Declaration.grounded_of_build built
  obtain ⟨element, stands, -⟩ := (Declaration.represents_of_build built).root
  have present : grammar.root < grammar.elements.length := (List.getElem?_eq_some_iff.1 stands).1
  have gives : Search.Gives
      (Memo.Exact (Search.of grammar options tokens) [] fun _ => False) (· ≤ tokens.length)
      ((Search.of grammar options tokens).candidates options.maxMemoEntries)
      (Search.of grammar options tokens).afresh grammar.root :=
    Search.solve_gives_of_ample grounded options tokens ample _ grammar.root present present _
      (by simp)
  have others : ∀ position ∈ List.range' 1 ((Search.of grammar options tokens).length - 1),
      position ≤ tokens.length := by
    intro position member
    rw [List.mem_range'_1, Search.of_length] at member
    omega
  rw [roots]
  exact (Search.rootStep_follows gives options.mode (Nat.zero_le _) others {}
    (Search.exact_empty _)).1.1

/-- Without a limit on memory, the roots are those of a search that remembers nothing. -/
theorem roots_eq_afresh (built : declaration.build = .ok grammar)
    (unlimited : options.maxMemoEntries = none) (tokens : List Token) :
    grammar.roots options tokens =
      ((Search.of grammar options tokens).rootStep
        (Search.told (Search.of grammar options tokens).afresh) options.mode grammar.root).run :=
  roots_eq_afresh_of_ample built (by simp [unlimited])

/-- Without a limit on memory, questions about elements of a grammar that was built, from positions
among the tokens, are answered with what the search without memory finds, whatever was asked before.
The memory holds nothing else: one answer for a pair of element and position that exist, and so no
more answers than there are such pairs. It never gives an answer up, so this is true of what it held
at any time before as well. -/
theorem memory_changes_no_answer (built : declaration.build = .ok grammar)
    (unlimited : options.maxMemoEntries = none) (tokens : List Token) {asked : List (Nat × Nat)}
    (inside : ∀ pair ∈ asked, pair.1 < grammar.size ∧ pair.2 ≤ tokens.length) :
    (∀ element < grammar.size, ∀ position ≤ tokens.length, ∀ depth > element,
      (Search.of grammar options tokens).candidatesAfter options.maxMemoEntries asked element
          position = (Search.of grammar options tokens).plain depth element position) ∧
    (∀ entry ∈ ((Search.of grammar options tokens).memoryAfter options.maxMemoEntries
        asked).entries,
      entry.1.1 < grammar.size ∧ entry.1.2 ≤ tokens.length ∧
      ∀ depth > entry.1.1,
        entry.2 = (Search.of grammar options tokens).plain depth entry.1.1 entry.1.2) ∧
    ((Search.of grammar options tokens).memoryAfter options.maxMemoEntries asked).size ≤
      grammar.size * (tokens.length + 1) ∧
    ∀ more, (∀ pair ∈ more, pair.1 < grammar.size ∧ pair.2 ≤ tokens.length) →
      ((Search.of grammar options tokens).memoryAfter options.maxMemoEntries asked).entries <:+
        ((Search.of grammar options tokens).memoryAfter options.maxMemoEntries
          (asked ++ more)).entries := by
  have grounded := Declaration.grounded_of_build built
  have depths : ∀ element position, ∀ depth > element,
      (Search.of grammar options tokens).afresh element position =
        (Search.of grammar options tokens).plain depth element position := by
    intro element position depth deeper
    exact (Search.plain_eq_of_lt (fun _ _ present _ member => grounded.child_lt present member)
      position deeper).symm
  have exact : Memo.Exact (Search.of grammar options tokens) [] (fun _ => False)
      ((Search.of grammar options tokens).memoryAfter none asked) :=
    Search.foldl_exact grounded inside (Search.exact_empty _)
  rw [unlimited]
  refine ⟨?_, ?_, ?_, ?_⟩
  · intro element present position among depth deeper
    rw [Search.candidatesAfter_eq_afresh grounded inside present among,
      depths element position depth deeper]
  · intro entry held
    obtain ⟨present, among⟩ := exact.inside entry held
    refine ⟨present, by simpa using among, fun depth deeper => ?_⟩
    rw [exact.exact entry held, depths entry.1.1 entry.1.2 depth deeper]
  · have fewer := exact.size_le
    rw [Search.of_length] at fewer
    exact fewer
  · intro more others
    have still := Search.foldl_exact grounded others { exact with keeps := List.suffix_refl _ }
    rw [Search.memoryAfter, Search.memoryAfter, List.foldl_append]
    exact still.keeps

/-- The search of the sentence for the commands. -/
def lampSearch (grammar : Grammar) : Search := .of grammar { skipBudget := .limited 1 } lampSentence

/-- After questions about the commands from two positions there are fifteen answers in memory, of
fifty-six that are possible, and the next answer is that of the search without memory. -/
theorem lamp_memory_changes_no_answer : ∃ grammar, lampDeclaration.build = .ok grammar ∧
    ((lampSearch grammar).memoryAfter none [(7, 0), (7, 1)]).size = 15 ∧
    ((lampSearch grammar).memoryAfter none [(7, 0), (7, 1)]).size ≤ 8 * (6 + 1) ∧
    (lampSearch grammar).candidatesAfter none [(7, 0), (7, 1)] 7 1 =
      (lampSearch grammar).plain 8 7 1 := by
  obtain ⟨grammar, built, read⟩ : ∃ grammar, lampDeclaration.build = .ok grammar ∧
      (grammar.size, ((lampSearch grammar).memoryAfter none [(7, 0), (7, 1)]).size) = (8, 15) :=
    exists_built (by decide +kernel)
  obtain ⟨eight, fifteen⟩ := Prod.mk.inj read
  have six : lampSentence.length = 6 := rfl
  have inside : ∀ pair ∈ [(7, 0), (7, 1)],
      pair.1 < grammar.size ∧ pair.2 ≤ lampSentence.length := by
    rw [eight, six]
    decide
  obtain ⟨answers, -, fewer, -⟩ := memory_changes_no_answer built
    (show ({ skipBudget := .limited 1 } : MatchOptions).maxMemoEntries = none from rfl)
    lampSentence inside
  rw [eight, six] at fewer
  refine ⟨grammar, built, fifteen, fewer, ?_⟩
  exact answers 7 (by omega) 1 (by omega) 8 (by omega)

end Grammar

end Utterance

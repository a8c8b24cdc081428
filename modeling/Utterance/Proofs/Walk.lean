import Utterance.Proofs.Cycles

/-!
# The walk over references has no need of its bound

The check for circles walks references depth first and gives up at a depth that no way over distinct
names can reach. `Walks` is the same walk with no bound at all: how it ends, if it ends. The bounded
walk follows it step by step as long as there are more levels left than names that are not on the
way (`walks_of_visit`), so the walk without a bound ends, in one way only (`Walks.unique`). What the
check reports is then exact: a circle when some definition uses itself, and one that is there.
-/
namespace Utterance.Declaration

/-- How a walk over names ends that is not bounded in depth, given the names on the way to them and
the names that are finished: with the names that are finished then, or with a circle. -/
inductive Walks (definitions : List Definition) :
    (path finished names : List String) → Except (List String) (List String) → Prop where
  /-- Over no names it is done. -/
  | nil {path finished : List String} : Walks definitions path finished [] (.ok finished)
  /-- A name that is finished is passed over. -/
  | known {path finished names : List String} {name : String}
      {outcome : Except (List String) (List String)} (settled : name ∈ finished)
      (rest : Walks definitions path finished names outcome) :
      Walks definitions path finished (name :: names) outcome
  /-- A name on its own way closes a circle. -/
  | closed {path finished names : List String} {name : String} (fresh : name ∉ finished)
      (met : name ∈ path) :
      Walks definitions path finished (name :: names)
        (.error (path.dropWhile (· != name) ++ [name]))
  /-- A circle that is closed below a name ends the walk. -/
  | failed {path finished names cycle : List String} {name : String} (fresh : name ∉ finished)
      (unmet : name ∉ path)
      (below : Walks definitions (path ++ [name]) finished (referencesOf definitions name)
        (.error cycle)) :
      Walks definitions path finished (name :: names) (.error cycle)
  /-- A name below which all is finished is finished itself. -/
  | through {path finished walked names : List String} {name : String}
      {outcome : Except (List String) (List String)} (fresh : name ∉ finished)
      (unmet : name ∉ path)
      (below : Walks definitions (path ++ [name]) finished (referencesOf definitions name)
        (.ok walked))
      (rest : Walks definitions path (name :: walked) names outcome) :
      Walks definitions path finished (name :: names) outcome

variable {definitions : List Definition}

/-- A walk ends in one way. -/
theorem Walks.unique {path finished names : List String}
    {outcome other : Except (List String) (List String)}
    (walk : Walks definitions path finished names outcome)
    (again : Walks definitions path finished names other) : outcome = other := by
  induction walk generalizing other with
  | nil =>
    cases again
    rfl
  | known settled rest hypothesis =>
    cases again with
    | known _ others => exact hypothesis others
    | closed fresh met => exact absurd settled fresh
    | failed fresh unmet below => exact absurd settled fresh
    | through fresh unmet below others => exact absurd settled fresh
  | closed fresh met =>
    cases again with
    | known settled others => exact absurd settled fresh
    | closed _ _ => rfl
    | failed _ unmet below => exact absurd met unmet
    | through _ unmet below others => exact absurd met unmet
  | failed fresh unmet below hypothesis =>
    cases again with
    | known settled others => exact absurd settled fresh
    | closed _ met => exact absurd met unmet
    | failed _ _ deeper => exact hypothesis deeper
    | through _ _ deeper others => exact absurd (hypothesis deeper) (by simp)
  | through fresh unmet below rest belowHypothesis restHypothesis =>
    cases again with
    | known settled others => exact absurd settled fresh
    | closed _ met => exact absurd met unmet
    | failed _ _ deeper => exact absurd (belowHypothesis deeper) (by simp)
    | through _ _ deeper others =>
      obtain rfl := Except.ok.inj (belowHypothesis deeper)
      exact restHypothesis others

/-- The walk of bounded depth ends as the walk without a bound does, while there are more levels
left than definitions that are not on the way. -/
theorem walks_of_visit
    (bound : ∀ name, ∀ used ∈ referencesOf definitions name, used ∈ definitions.map (·.name))
    {fuel : Nat} {path : List String} (room : definitions.length < fuel + path.length)
    (apart : path.Nodup) (inside : ∀ step ∈ path, step ∈ definitions.map (·.name))
    (names : List String) (known : ∀ name ∈ names, name ∈ definitions.map (·.name))
    (finished : List String) :
    Walks definitions path finished names
      (names.foldlM (visit definitions fuel path) finished) := by
  induction fuel generalizing path names finished with
  | zero =>
    have short := length_le_of_nodup apart inside
    omega
  | succ fuel deeper =>
    induction names generalizing finished with
    | nil => exact .nil
    | cons name rest hypothesis =>
      have others := hypothesis fun other member => known other (List.mem_cons_of_mem _ member)
      rw [List.foldlM_cons, visit]
      by_cases done : name ∈ finished
      · rw [if_pos (by simpa using done)]
        exact .known done (others finished)
      · rw [if_neg (by simpa using done)]
        by_cases met : name ∈ path
        · rw [if_pos (by simpa using met)]
          exact .closed done met
        · rw [if_neg (by simpa using met)]
          have longer : (path ++ [name]).Nodup := by simpa using apart.concat met
          have within : ∀ step ∈ path ++ [name], step ∈ definitions.map (·.name) := by
            intro step member
            rcases List.mem_append.1 member with earlier | last
            · exact inside step earlier
            · exact List.mem_singleton.1 last ▸ known name List.mem_cons_self
          have space : definitions.length < fuel + (path ++ [name]).length := by
            rw [List.length_append, List.length_singleton]
            omega
          have below := deeper space longer within (referencesOf definitions name) (bound name)
            finished
          cases walk : (referencesOf definitions name).foldlM
              (visit definitions fuel (path ++ [name])) finished with
          | error cycle =>
            rw [walk] at below
            exact .failed done met below
          | ok walked =>
            rw [walk] at below
            exact .through done met below (others (name :: walked))

/-- The walk over all names ends without a bound on its depth, in the way in which the bounded walk
does. -/
theorem walks_iff
    (bound : ∀ name, ∀ used ∈ referencesOf definitions name, used ∈ definitions.map (·.name))
    (outcome : Except (List String) (List String)) :
    Walks definitions [] [] (definitions.map (·.name)) outcome ↔
      (definitions.map (·.name)).foldlM (visit definitions (definitions.length + 1) []) [] =
        outcome := by
  have ends : Walks definitions [] [] (definitions.map (·.name)) ((definitions.map (·.name)).foldlM
      (visit definitions (definitions.length + 1) []) []) :=
    walks_of_visit bound (by simp) List.nodup_nil (by simp) _ (fun _ given => given) []
  exact ⟨fun walk => ends.unique walk, fun same => same ▸ ends⟩

/-- The circle that is found is one that the walk closes. -/
theorem findCycle?_eq_some_iff (cycle : List String) :
    findCycle? definitions = some cycle ↔
      (definitions.map (·.name)).foldlM (visit definitions (definitions.length + 1) []) [] =
        .error cycle := by
  rw [findCycle?]
  cases (definitions.map (·.name)).foldlM (visit definitions (definitions.length + 1) []) [] with
  | ok walked => simp
  | error other => simp

/-- What is found is a circle. -/
theorem circle_of_findCycle? {cycle : List String} (found : findCycle? definitions = some cycle) :
    Circle definitions cycle := by
  obtain ⟨name, -, reached, failed⟩ :=
    exists_of_foldlM_eq_error ((findCycle?_eq_some_iff cycle).1 found)
  exact visit_circle List.nodup_nil (by simp) failed

/-- A circle has two places at least, is closed, repeats nothing else, and each of its names uses
the next. -/
theorem Circle.steps (distinct : (definitions.map (·.name)).Nodup) {cycle : List String}
    (circle : Circle definitions cycle) :
    2 ≤ cycle.length ∧ cycle.head? = cycle.getLast? ∧ cycle.dropLast.Nodup ∧
      ∀ place (inside : place + 1 < cycle.length),
        Refers definitions cycle[place] cycle[place + 1] := by
  obtain ⟨name, between, rfl, apart, chain⟩ := circle
  have split : name :: (between ++ [name]) = (name :: between) ++ [name] := rfl
  refine ⟨by simp, ?_, ?_, ?_⟩
  · rw [split, List.getLast?_concat]
    rfl
  · rw [split, List.dropLast_concat]
    exact apart
  · intro place inside
    rw [← mem_referencesOf_iff distinct]
    exact List.isChain_iff_getElem.1 chain place inside

/-- The report of a circle names the circle and points to the definition that it starts with. -/
theorem checkCycles_eq_error_iff (diagnostic : Diagnostic) :
    checkCycles definitions = .error diagnostic ↔ ∃ cycle, findCycle? definitions = some cycle ∧
      diagnostic =
        let source := ((find? definitions (cycle.headD "")).map (·.source)).getD default
        (Diagnostic.ofGrammar (.cyclicGrammar cycle) source source.fullSpan).withHelp
          "grammars must be acyclic; use repeat() for recursion over a list" := by
  rw [checkCycles]
  cases findCycle? definitions with
  | none => simp
  | some cycle =>
    constructor
    · intro failed
      exact ⟨cycle, rfl, (Except.error.inj failed).symm⟩
    · rintro ⟨other, same, rfl⟩
      rw [Option.some.inj same]

/-- For definitions with names of their own that use given names only: the walk over references,
without any bound on its depth, ends in exactly one way, the one that the check takes it to; the
check fails exactly when some definition uses itself, directly or through others; and what it
reports then is the circle that the walk closes. The circle has at least one step, ends where it
starts, repeats no other name, and each name in it is used by the definition of the one before. -/
theorem cycle_check_is_exact (distinct : (definitions.map (·.name)).Nodup)
    (bound : ∀ definition ∈ definitions, ∀ used ∈ definition.expr.references,
      used ∈ definitions.map (·.name)) :
    (∃! outcome, Walks definitions [] [] (definitions.map (·.name)) outcome) ∧
    ((∃ diagnostic, checkCycles definitions = .error diagnostic) ↔
      ∃ name, Relation.TransGen (Refers definitions) name name) ∧
    ∀ diagnostic, checkCycles definitions = .error diagnostic →
      ∃ cycle, diagnostic.fault = .cyclicGrammar cycle ∧
        Walks definitions [] [] (definitions.map (·.name)) (.error cycle) ∧
        2 ≤ cycle.length ∧ cycle.head? = cycle.getLast? ∧ cycle.dropLast.Nodup ∧
        ∀ place (inside : place + 1 < cycle.length),
          Refers definitions cycle[place] cycle[place + 1] := by
  have bounded : ∀ name, ∀ used ∈ referencesOf definitions name,
      used ∈ definitions.map (·.name) := by
    intro name used uses
    obtain ⟨definition, member, -, inside⟩ := (mem_referencesOf_iff distinct).1 uses
    exact bound definition member used inside
  refine ⟨?_, ?_, ?_⟩
  · exact ⟨_, (walks_iff bounded _).2 rfl,
      fun other walk => ((walks_iff bounded other).1 walk).symm⟩
  · have passes := checkCycles_eq_ok_iff distinct bound
    rw [Acyclic, ← not_exists] at passes
    rw [← not_iff_not, ← passes]
    cases checkCycles definitions with
    | ok done => simp
    | error diagnostic => simp
  · intro diagnostic failed
    obtain ⟨cycle, found, rfl⟩ := (checkCycles_eq_error_iff diagnostic).1 failed
    have walk := (walks_iff bounded _).2 ((findCycle?_eq_some_iff cycle).1 found)
    exact ⟨cycle, rfl, walk, (circle_of_findCycle? found).steps distinct⟩

/-- Definitions of which two use each other, reached from a third. -/
def lasso : List Definition :=
  [⟨"GOAL", .sequence [.literals ["say"], .rule "PHRASE"]⟩,
    ⟨"PHRASE", .choice [.literals ["so"], .optional (.rule "CLAUSE")]⟩,
    ⟨"CLAUSE", .sequence [.rule "PHRASE", .literals ["then"]]⟩]

/-- The circle of the two is reported, without the way to it. -/
theorem lasso_is_reported :
    (lasso.map (·.name)).Nodup ∧
    (∀ definition ∈ lasso, ∀ used ∈ definition.expr.references, used ∈ lasso.map (·.name)) ∧
    (∃ diagnostic, checkCycles lasso = .error diagnostic ∧
      diagnostic.fault = .cyclicGrammar ["PHRASE", "CLAUSE", "PHRASE"]) ∧
    ∃ name, Relation.TransGen (Refers lasso) name name := by
  have distinct : (lasso.map (·.name)).Nodup := by decide
  have bound : ∀ definition ∈ lasso, ∀ used ∈ definition.expr.references,
      used ∈ lasso.map (·.name) := by decide
  obtain ⟨diagnostic, failed, fault⟩ : ∃ diagnostic, checkCycles lasso = .error diagnostic ∧
      diagnostic.fault = .cyclicGrammar ["PHRASE", "CLAUSE", "PHRASE"] := ⟨_, rfl, rfl⟩
  exact ⟨distinct, bound, ⟨diagnostic, failed, fault⟩,
    (cycle_check_is_exact distinct bound).2.1.1 ⟨diagnostic, failed⟩⟩

end Utterance.Declaration

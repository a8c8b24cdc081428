import Mathlib.Data.List.Chain
import Mathlib.Data.List.Nodup
import Mathlib.Data.List.Perm.Subperm
import Mathlib.Logic.Relation
import Utterance.Proofs.Building

/-!
# Circles of references

The walk over references stops with an error exactly when some definition uses itself, directly or
through others (`findCycle?_eq_none_iff`). One that ends well leaves the names in an order in which
every name stands before the names it uses (`Settled`), so no name can use itself. One that fails
gives a circle: it starts and ends with one name, no other name is repeated, and each name uses the
next (`Circle`). The bound on the depth of the walk is never met, because the names on the way are
distinct.
-/
namespace Utterance.Declaration

variable {definitions : List Definition}

/-- Whether the definition of a name uses another name. -/
def Refers (definitions : List Definition) (user used : String) : Prop :=
  ∃ definition ∈ definitions, definition.name = user ∧ used ∈ definition.expr.references

/-- Whether no definition uses itself, directly or through others. -/
def Acyclic (definitions : List Definition) : Prop :=
  ∀ name, ¬ Relation.TransGen (Refers definitions) name name

/-- Where names are given once, the definition that is found for a name is the one that has it. -/
theorem find?_eq_some_iff (distinct : (definitions.map (·.name)).Nodup) (name : String)
    (definition : Definition) :
    find? definitions name = some definition ↔
      definition ∈ definitions ∧ definition.name = name := by
  constructor
  · intro found
    exact ⟨List.mem_of_find?_eq_some found, by simpa using List.find?_some found⟩
  · rintro ⟨member, rfl⟩
    cases found : find? definitions definition.name with
    | none => simpa using List.find?_eq_none.1 found definition member
    | some other =>
      have same : other.name = definition.name := by simpa using List.find?_some found
      rw [List.inj_on_of_nodup_map distinct (List.mem_of_find?_eq_some found) member same]

/-- A name that is given has a definition. -/
theorem exists_find?_eq_some (distinct : (definitions.map (·.name)).Nodup) {name : String}
    (given : name ∈ definitions.map (·.name)) :
    ∃ definition, find? definitions name = some definition := by
  obtain ⟨definition, member, rfl⟩ := List.mem_map.1 given
  exact ⟨definition, (find?_eq_some_iff distinct _ _).2 ⟨member, rfl⟩⟩

/-- The names that the definition of a name uses. -/
theorem mem_referencesOf_iff (distinct : (definitions.map (·.name)).Nodup) {user used : String} :
    used ∈ referencesOf definitions user ↔ Refers definitions user used := by
  constructor
  · intro member
    cases found : find? definitions user with
    | none => exact absurd member (by simp [referencesOf, found])
    | some definition =>
      obtain ⟨inside, named⟩ := (find?_eq_some_iff distinct _ _).1 found
      exact ⟨definition, inside, named, by simpa [referencesOf, found] using member⟩
  · rintro ⟨definition, inside, named, member⟩
    have found := (find?_eq_some_iff distinct _ _).2 ⟨inside, named⟩
    simpa [referencesOf, found] using member

/-- Whether each of some names stands before the names that its definition uses. -/
def Settled (definitions : List Definition) : List String → Prop
  | [] => True
  | name :: rest => (∀ used ∈ referencesOf definitions name, used ∈ rest) ∧ Settled definitions rest

/-- From settled names references can only be followed so far. -/
theorem Settled.acc {finished : List String} (settled : Settled definitions finished) :
    ∀ name ∈ finished, Acc (fun used user => used ∈ referencesOf definitions user) name := by
  induction finished with
  | nil => simp
  | cons first rest hypothesis =>
    have later := hypothesis settled.2
    intro name member
    rcases List.mem_cons.1 member with rfl | member
    · exact .intro _ fun used uses => later used (settled.1 used uses)
    · exact later name member

/-- From settled names there is no way back. -/
theorem Settled.not_transGen (distinct : (definitions.map (·.name)).Nodup)
    {finished : List String} (settled : Settled definitions finished) {name : String}
    (member : name ∈ finished) : ¬ Relation.TransGen (Refers definitions) name name := by
  have accessible := (settled.acc name member).transGen
  simp only [mem_referencesOf_iff distinct] at accessible
  clear member
  induction accessible with
  | intro name _ hypothesis =>
    intro circular
    have back : Relation.TransGen (fun used user => Refers definitions user used) name name :=
      Relation.transGen_swap.2 circular
    exact hypothesis name back circular

/-- Whether names go round in a circle, each using the next and none met twice on the way. -/
def Circle (definitions : List Definition) (cycle : List String) : Prop :=
  ∃ name between, cycle = name :: (between ++ [name]) ∧ (name :: between).Nodup ∧
    cycle.IsChain fun user used => used ∈ referencesOf definitions user

/-- A walk over names one after another settles all of them, if the walk from each does. -/
theorem foldlM_settles {step : List String → String → Except (List String) (List String)}
    {names : List String}
    (each : ∀ name ∈ names, ∀ finished walked, Settled definitions finished →
      step finished name = .ok walked →
      Settled definitions walked ∧ finished <:+ walked ∧ name ∈ walked)
    {finished walked : List String} (settled : Settled definitions finished)
    (success : names.foldlM step finished = .ok walked) :
    Settled definitions walked ∧ finished <:+ walked ∧ ∀ name ∈ names, name ∈ walked := by
  induction names generalizing finished with
  | nil =>
    obtain rfl := Except.ok.inj success
    exact ⟨settled, List.suffix_rfl, by simp⟩
  | cons first rest hypothesis =>
    rw [List.foldlM_cons] at success
    obtain ⟨middle, walk, success⟩ := ok_of_bind success
    obtain ⟨kept, longer, reached⟩ := each first List.mem_cons_self _ _ settled walk
    obtain ⟨last, further, others⟩ := hypothesis
      (fun name member => each name (List.mem_cons_of_mem _ member)) kept success
    refine ⟨last, longer.trans further, ?_⟩
    intro name member
    rcases List.mem_cons.1 member with rfl | member
    · exact further.subset reached
    · exact others name member

/-- A walk over names that fails, fails at one of them. -/
theorem exists_of_foldlM_eq_error
    {step : List String → String → Except (List String) (List String)}
    {names finished cycle : List String} (failure : names.foldlM step finished = .error cycle) :
    ∃ name ∈ names, ∃ reached, step reached name = .error cycle := by
  induction names generalizing finished with
  | nil => exact absurd failure (by simp [pure, Except.pure])
  | cons first rest hypothesis =>
    rw [List.foldlM_cons] at failure
    cases walk : step finished first with
    | error other =>
      rw [walk] at failure
      obtain rfl := Except.error.inj failure
      exact ⟨first, List.mem_cons_self, finished, walk⟩
    | ok middle =>
      rw [walk] at failure
      obtain ⟨name, member, reached, failed⟩ := hypothesis failure
      exact ⟨name, List.mem_cons_of_mem _ member, reached, failed⟩

/-- A way over distinct names is no longer than the list of definitions. -/
theorem length_le_of_nodup {path : List String} (apart : path.Nodup)
    (inside : ∀ name ∈ path, name ∈ definitions.map (·.name)) :
    path.length ≤ definitions.length := by
  simpa only [List.length_map] using (apart.subperm inside).length_le

/-- A walk from a name that ends well settles the name. -/
theorem visit_settles
    (bound : ∀ name, ∀ used ∈ referencesOf definitions name, used ∈ definitions.map (·.name))
    {fuel : Nat} {path finished walked : List String} {name : String}
    (room : definitions.length < fuel + path.length) (apart : path.Nodup)
    (inside : ∀ step ∈ path, step ∈ definitions.map (·.name))
    (known : name ∈ definitions.map (·.name)) (settled : Settled definitions finished)
    (success : visit definitions fuel path finished name = .ok walked) :
    Settled definitions walked ∧ finished <:+ walked ∧ name ∈ walked := by
  induction fuel generalizing path finished name walked with
  | zero =>
    have short := length_le_of_nodup apart inside
    omega
  | succ fuel hypothesis =>
    rw [visit] at success
    by_cases done : finished.contains name = true
    · rw [if_pos done] at success
      obtain rfl := Except.ok.inj success
      exact ⟨settled, List.suffix_rfl, by simpa using done⟩
    · rw [if_neg done] at success
      by_cases met : path.contains name = true
      · rw [if_pos met] at success
        exact absurd success (by simp)
      · rw [if_neg met] at success
        have fresh : name ∉ path := by simpa using met
        have longer : (path ++ [name]).Nodup := by simpa using apart.concat fresh
        have within : ∀ step ∈ path ++ [name], step ∈ definitions.map (·.name) := by
          intro step member
          rcases List.mem_append.1 member with member | final
          · exact inside step member
          · exact List.mem_singleton.1 final ▸ known
        obtain ⟨reached, walk, success⟩ := ok_of_bind success
        obtain rfl := Except.ok.inj success
        have space : definitions.length < fuel + (path ++ [name]).length := by
          rw [List.length_append, List.length_singleton]
          omega
        obtain ⟨kept, suffix, others⟩ := foldlM_settles
          (fun used uses _ _ start => hypothesis space longer within (bound name used uses) start)
          settled walk
        exact ⟨⟨others, kept⟩, suffix.trans (List.suffix_cons _ _), List.mem_cons_self⟩

/-- A walk from a name that fails gives a circle. -/
theorem visit_circle {fuel : Nat} {path finished cycle : List String} {name : String}
    (apart : path.Nodup)
    (chain : (path ++ [name]).IsChain fun user used => used ∈ referencesOf definitions user)
    (failure : visit definitions fuel path finished name = .error cycle) :
    Circle definitions cycle := by
  induction fuel generalizing path finished name with
  | zero => exact absurd failure (by simp [visit])
  | succ fuel hypothesis =>
    rw [visit] at failure
    by_cases done : finished.contains name = true
    · rw [if_pos done] at failure
      exact absurd failure (by simp)
    · rw [if_neg done] at failure
      by_cases met : path.contains name = true
      · rw [if_pos met] at failure
        obtain rfl := Except.error.inj failure
        obtain ⟨before, after, rfl, earlier⟩ :=
          List.eq_append_cons_of_mem (by simpa using met : name ∈ path)
        have circle : (before ++ name :: after).dropWhile (· != name) = name :: after := by
          rw [List.dropWhile_append_of_pos fun step member => ?_]
          · simp
          · have other : step ≠ name := fun same => earlier (same ▸ member)
            simpa using other
        rw [circle]
        refine ⟨name, after, rfl, apart.of_append_right, ?_⟩
        rw [List.append_assoc] at chain
        exact chain.right_of_append
      · rw [if_neg met] at failure
        have fresh : name ∉ path := by simpa using met
        cases walk : (referencesOf definitions name).foldlM
            (visit definitions fuel (path ++ [name])) finished with
        | ok reached =>
          rw [walk] at failure
          exact absurd failure (by simp [bind, Except.bind])
        | error other =>
          rw [walk] at failure
          obtain rfl := Except.error.inj failure
          obtain ⟨used, uses, reached, failed⟩ := exists_of_foldlM_eq_error walk
          refine hypothesis (by simpa using apart.concat fresh) ?_ failed
          refine chain.append (.singleton used) ?_
          simpa using uses

/-- In a circle a definition uses itself. -/
theorem Circle.transGen (distinct : (definitions.map (·.name)).Nodup) {cycle : List String}
    (circle : Circle definitions cycle) :
    ∃ name, Relation.TransGen (Refers definitions) name name := by
  obtain ⟨name, between, rfl, -, chain⟩ := circle
  refine ⟨name, ?_⟩
  simp only [mem_referencesOf_iff distinct] at chain
  cases between with
  | nil => exact .single (List.isChain_pair.1 chain)
  | cons first rest =>
    rw [List.cons_append, List.isChain_cons_cons] at chain
    refine .head' chain.1 ?_
    exact List.relationReflTransGen_of_exists_isChain_cons _ chain.2 (by simp)

/-- The walk finds no circle exactly when no definition uses itself. -/
theorem findCycle?_eq_none_iff (distinct : (definitions.map (·.name)).Nodup)
    (bound : ∀ definition ∈ definitions, ∀ used ∈ definition.expr.references,
      used ∈ definitions.map (·.name)) :
    findCycle? definitions = none ↔ Acyclic definitions := by
  have bounded : ∀ name, ∀ used ∈ referencesOf definitions name,
      used ∈ definitions.map (·.name) := by
    intro name used uses
    obtain ⟨definition, member, -, inside⟩ := (mem_referencesOf_iff distinct).1 uses
    exact bound definition member used inside
  rw [findCycle?]
  cases walk : (definitions.map (·.name)).foldlM
      (visit definitions (definitions.length + 1) []) [] with
  | ok walked =>
    simp only [true_iff]
    have empty : Settled definitions [] := True.intro
    obtain ⟨settled, -, reached⟩ := foldlM_settles (fun name member _ _ start =>
      visit_settles bounded (by simp) List.nodup_nil (by simp) member start) empty walk
    intro name circular
    have given : name ∈ definitions.map (·.name) := by
      obtain ⟨used, ⟨definition, member, named, -⟩, -⟩ :=
        Relation.TransGen.head'_iff.1 circular
      exact List.mem_map.2 ⟨definition, member, named⟩
    exact settled.not_transGen distinct (reached name given) circular
  | error cycle =>
    simp only [reduceCtorEq, false_iff]
    intro acyclic
    obtain ⟨name, -, reached, failed⟩ := exists_of_foldlM_eq_error walk
    obtain ⟨first, circular⟩ := (visit_circle (by simp) (by simp) failed).transGen distinct
    exact acyclic first circular

/-- The check for circles passes exactly when no definition uses itself. -/
theorem checkCycles_eq_ok_iff (distinct : (definitions.map (·.name)).Nodup)
    (bound : ∀ definition ∈ definitions, ∀ used ∈ definition.expr.references,
      used ∈ definitions.map (·.name)) :
    checkCycles definitions = .ok () ↔ Acyclic definitions := by
  rw [← findCycle?_eq_none_iff distinct bound, checkCycles]
  cases findCycle? definitions with
  | none => simp
  | some cycle => simp

end Utterance.Declaration

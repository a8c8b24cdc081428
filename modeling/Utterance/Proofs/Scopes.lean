import Utterance.Result

/-!
# What a scope binds

A scope lists names in order, each with its values, and no name twice (`Scope.Ordered`). It is told
by the values bound to each name (`Scope.valuesOf`): adding values puts them after those that the
name has (`Scope.valuesOf_add`), floating a scope into another does so for each name that is not
shadowed (`Scope.valuesOf_float`), and the named view binds a name to its value or the list of its
values (`Scope.lookup_toNamed`).

What a choice binds and what a series of children binds follow from these
(`Built.valuesOf_around`, `Built.valuesOf_combine`).
-/
namespace Utterance

namespace Scope

/-- The values bound to a name, in match order. -/
def valuesOf (name : String) (scope : Scope) : List Value := (scope.lookup name).getD []

/-- Whether names stand in order, none twice, and each has a value. -/
structure Ordered (scope : Scope) : Prop where
  /-- Each name is less than those after it. -/
  names : scope.Pairwise fun left right => left.1 < right.1
  /-- Each name has a value. -/
  filled : ∀ entry ∈ scope, entry.2 ≠ []

/-- What a named view holds for some values: nothing for none, the value itself for one, and the
list of all of them for two or more. -/
def bound? : List Value → Option Value
  | [] => none
  | [value] => some value
  | first :: second :: rest => some (.list (first :: second :: rest))

variable {name other : String} {values bound : List Value} {scope rest inner outer : Scope}

/-- The scope without names binds nothing. -/
@[simp] theorem valuesOf_nil (name : String) : valuesOf name [] = [] := rfl

/-- The first name of a scope has its values. -/
theorem valuesOf_cons (name other : String) (bound : List Value) (rest : Scope) :
    valuesOf name ((other, bound) :: rest) =
      if name = other then bound else valuesOf name rest := by
  rw [valuesOf, List.lookup_cons]
  by_cases same : name = other
  · simp [same]
  · rw [if_neg same, beq_false_of_ne same]
    rfl

/-- A name that is less than all others is not bound. -/
theorem valuesOf_eq_nil (less : ∀ entry ∈ scope, name < entry.1) : valuesOf name scope = [] := by
  have absent : scope.lookup name = none := by
    rw [List.lookup_eq_none_iff]
    intro entry member
    have below := less entry member
    simp only [bne_iff_ne]
    rintro rfl
    exact String.lt_irrefl _ below
  rw [valuesOf, absent]
  rfl

namespace Ordered

/-- No names are in order. -/
theorem nil : Ordered [] := ⟨.nil, by simp⟩

/-- The first name is less than all others. -/
theorem head_lt (ordered : Ordered ((name, bound) :: rest)) : ∀ entry ∈ rest, name < entry.1 :=
  (List.pairwise_cons.1 ordered.names).1

/-- The names after the first are in order. -/
theorem tail (ordered : Ordered ((name, bound) :: rest)) : Ordered rest :=
  ⟨(List.pairwise_cons.1 ordered.names).2,
    fun entry member => ordered.filled entry (List.mem_cons_of_mem _ member)⟩

/-- A lesser name with values may stand before names in order. -/
theorem cons (less : ∀ entry ∈ rest, name < entry.1) (some : bound ≠ []) (ordered : Ordered rest) :
    Ordered ((name, bound) :: rest) := by
  refine ⟨.cons less ordered.names, fun entry member => ?_⟩
  rcases List.mem_cons.1 member with rfl | member
  · exact some
  · exact ordered.filled entry member

end Ordered

/-- The names of a scope with values added are its names and the one that they are added to. -/
theorem name_of_mem_add {entry : String × List Value} (member : entry ∈ add name values scope) :
    entry.1 = name ∨ ∃ held ∈ scope, entry.1 = held.1 := by
  induction scope with
  | nil =>
    obtain rfl := List.mem_singleton.1 member
    exact .inl rfl
  | cons held rest hypothesis =>
    obtain ⟨other, bound⟩ := held
    rw [add] at member
    split at member
    · rename_i same
      rcases List.mem_cons.1 member with rfl | later
      · exact .inl same.symm
      · exact .inr ⟨entry, List.mem_cons_of_mem _ later, rfl⟩
    · split at member
      · rcases List.mem_cons.1 member with rfl | later
        · exact .inl rfl
        · exact .inr ⟨entry, later, rfl⟩
      · rcases List.mem_cons.1 member with rfl | later
        · exact .inr ⟨_, List.mem_cons_self, rfl⟩
        · rcases hypothesis later with added | ⟨held, listed, same⟩
          · exact .inl added
          · exact .inr ⟨held, List.mem_cons_of_mem _ listed, same⟩

/-- A name that is neither another nor less than it is greater. -/
theorem lt_of_not (apart : name ≠ other) (above : ¬ name < other) : other < name :=
  String.not_le.1 fun below => apart (String.le_antisymm below (String.not_lt.1 above))

/-- Adding values keeps the order of names. -/
theorem Ordered.add (ordered : Ordered scope) (some : values ≠ []) :
    Ordered (scope.add name values) := by
  induction scope with
  | nil => exact .cons (by simp) some .nil
  | cons held rest hypothesis =>
    obtain ⟨other, bound⟩ := held
    rw [Scope.add]
    by_cases same : name = other
    · rw [if_pos same]
      exact .cons ordered.head_lt (by simp [some]) ordered.tail
    · rw [if_neg same]
      by_cases before : name < other
      · rw [if_pos before]
        refine .cons (fun entry member => ?_) some ordered
        rcases List.mem_cons.1 member with rfl | later
        · exact before
        · exact String.lt_trans before (ordered.head_lt entry later)
      · rw [if_neg before]
        refine .cons (fun entry member => ?_) (ordered.filled _ List.mem_cons_self)
          (hypothesis ordered.tail)
        rcases name_of_mem_add member with added | ⟨held, listed, equal⟩
        · rw [added]
          exact lt_of_not same before
        · rw [equal]
          exact ordered.head_lt held listed

/-- Values are added after those that their name has, and other names keep theirs. -/
theorem valuesOf_add (ordered : Ordered scope) (name other : String) (values : List Value) :
    valuesOf other (scope.add name values) =
      valuesOf other scope ++ if other = name then values else [] := by
  induction scope with
  | nil => simp [add, valuesOf_cons]
  | cons held rest hypothesis =>
    obtain ⟨first, bound⟩ := held
    have later := hypothesis ordered.tail
    rw [add]
    by_cases same : name = first
    · rw [if_pos same, valuesOf_cons, valuesOf_cons]
      by_cases asked : other = first <;> simp [asked, same]
    · rw [if_neg same]
      by_cases before : name < first
      · rw [if_pos before, valuesOf_cons]
        by_cases asked : other = name
        · have absent : valuesOf other ((first, bound) :: rest) = [] := by
            refine valuesOf_eq_nil fun entry member => ?_
            rw [asked]
            rcases List.mem_cons.1 member with rfl | behind
            · exact before
            · exact String.lt_trans before (ordered.head_lt entry behind)
          rw [if_pos asked, if_pos asked, absent, List.nil_append]
        · rw [if_neg asked, if_neg asked, List.append_nil]
      · rw [if_neg before, valuesOf_cons, valuesOf_cons, later]
        by_cases asked : other = first
        · have apart : other ≠ name := fun equal => same (equal.symm.trans asked)
          rw [if_pos asked, if_pos asked, if_neg apart, List.append_nil]
        · rw [if_neg asked, if_neg asked]

/-- Floating goes on after the first name, which is added unless it is shadowed. -/
theorem float_cons (shadowed : List String) (name : String) (bound : List Value)
    (rest outer : Scope) : float shadowed ((name, bound) :: rest) outer =
      float shadowed rest (if name ∈ shadowed then outer else outer.add name bound) := by
  simp [float]

/-- Floating keeps the order of names. -/
theorem Ordered.float (ordered : Ordered inner) (around : Ordered outer) (shadowed : List String) :
    Ordered (float shadowed inner outer) := by
  induction inner generalizing outer with
  | nil => exact around
  | cons held rest hypothesis =>
    obtain ⟨first, bound⟩ := held
    rw [float_cons]
    refine hypothesis ordered.tail ?_
    split
    · exact around
    · exact around.add (ordered.filled _ List.mem_cons_self)

/-- A scope that floats into another adds its values to each name that is not shadowed. -/
theorem valuesOf_float (ordered : Ordered inner) (around : Ordered outer) (shadowed : List String)
    (name : String) : valuesOf name (float shadowed inner outer) =
      valuesOf name outer ++ if name ∈ shadowed then [] else valuesOf name inner := by
  induction inner generalizing outer with
  | nil => simp [float]
  | cons held rest hypothesis =>
    obtain ⟨first, bound⟩ := held
    have some := ordered.filled _ List.mem_cons_self
    rw [float_cons, valuesOf_cons]
    by_cases hidden : first ∈ shadowed
    · rw [if_pos hidden, hypothesis ordered.tail around]
      by_cases asked : name = first
      · rw [asked, if_pos hidden, if_pos hidden]
      · rw [if_neg asked]
    · rw [if_neg hidden, hypothesis ordered.tail (around.add some), valuesOf_add around]
      by_cases asked : name = first
      · have absent : valuesOf first rest = [] := valuesOf_eq_nil ordered.head_lt
        simp [asked, hidden, absent]
      · simp [asked]

/-- The named view holds the values of a name. -/
theorem lookup_toNamed (ordered : Ordered scope) (name : String) :
    scope.toNamed.lookup name = bound? (valuesOf name scope) := by
  induction scope with
  | nil => rfl
  | cons held rest hypothesis =>
    obtain ⟨first, bound⟩ := held
    have later := hypothesis ordered.tail
    have some := ordered.filled _ List.mem_cons_self
    rw [toNamed] at later
    rw [valuesOf_cons, toNamed, List.map_cons, List.lookup_cons, later]
    by_cases asked : name = first
    · rw [if_pos asked, beq_iff_eq.2 asked]
      cases bound with
      | nil => exact absurd rfl some
      | cons value others =>
        cases others with
        | nil => rfl
        | cons second rest => rfl
    · rw [if_neg asked, beq_false_of_ne asked]

end Scope

namespace Built

/-- Names of children that are bound one after another. -/
def bindAll (children : List (String × Built)) (scope : Scope) : Scope :=
  children.foldl (fun scope child => scope.add child.1 [child.2.value]) scope

/-- Scopes of children that float into one, one after another. -/
def floatAll (shadowed : List String) (children : List (String × Built)) (scope : Scope) : Scope :=
  children.foldl (fun scope child => Scope.float shadowed child.2.scope scope) scope

variable {children : List (String × Built)} {scope : Scope}

/-- Binding children keeps the order of names. -/
theorem ordered_bindAll (ordered : scope.Ordered) (children : List (String × Built)) :
    (bindAll children scope).Ordered := by
  induction children generalizing scope with
  | nil => exact ordered
  | cons child rest hypothesis => exact hypothesis (ordered.add (by simp))

/-- A name has the values of the children with that name, in order. -/
theorem valuesOf_bindAll (ordered : scope.Ordered) (name : String)
    (children : List (String × Built)) :
    (bindAll children scope).valuesOf name =
      scope.valuesOf name ++ (children.filter (·.1 = name)).map (·.2.value) := by
  induction children generalizing scope with
  | nil => simp [bindAll]
  | cons child rest hypothesis =>
    have added : (scope.add child.1 [child.2.value]).Ordered := ordered.add (by simp)
    have later := hypothesis added
    rw [Scope.valuesOf_add ordered] at later
    refine later.trans ?_
    by_cases same : child.1 = name
    · simp [same]
    · simp [same, Ne.symm same]

/-- Floating the scopes of children keeps the order of names. -/
theorem ordered_floatAll (ordered : scope.Ordered) (shadowed : List String)
    (each : ∀ child ∈ children, child.2.scope.Ordered) :
    (floatAll shadowed children scope).Ordered := by
  induction children generalizing scope with
  | nil => exact ordered
  | cons child rest hypothesis =>
    exact hypothesis ((each child List.mem_cons_self).float ordered shadowed)
      fun other member => each other (List.mem_cons_of_mem _ member)

/-- A name that is not shadowed gets the values that the scopes of the children bind to it. -/
theorem valuesOf_floatAll (ordered : scope.Ordered) (shadowed : List String) (name : String)
    (each : ∀ child ∈ children, child.2.scope.Ordered) :
    (floatAll shadowed children scope).valuesOf name =
      scope.valuesOf name ++
        if name ∈ shadowed then []
        else children.flatMap fun child => child.2.scope.valuesOf name := by
  induction children generalizing scope with
  | nil => simp [floatAll]
  | cons child rest hypothesis =>
    have here := each child List.mem_cons_self
    have later := hypothesis (here.float ordered shadowed)
      fun other member => each other (List.mem_cons_of_mem _ member)
    rw [Scope.valuesOf_float here ordered] at later
    refine later.trans ?_
    by_cases hidden : name ∈ shadowed <;> simp [hidden]

/-- A series of children has the scope with their names bound and their scopes floated in. -/
theorem scope_combine (explicit : Bool) (children : List (String × Built)) :
    (combine explicit children).scope =
      floatAll (children.map (·.1)) children (bindAll children []) := rfl

/-- The scope of a series of children is in order if theirs are. -/
theorem ordered_combine (explicit : Bool) (each : ∀ child ∈ children, child.2.scope.Ordered) :
    (combine explicit children).scope.Ordered :=
  ordered_floatAll (ordered_bindAll .nil children) _ each

/-- In a series of children a name has the values of the children with that name, and if there are
none, those that the scopes of the children bind to it. -/
theorem valuesOf_combine (explicit : Bool) (each : ∀ child ∈ children, child.2.scope.Ordered)
    (name : String) : (combine explicit children).scope.valuesOf name =
      if name ∈ children.map (·.1) then (children.filter (·.1 = name)).map (·.2.value)
      else children.flatMap fun child => child.2.scope.valuesOf name := by
  rw [scope_combine, valuesOf_floatAll (ordered_bindAll .nil children) _ name each,
    valuesOf_bindAll .nil]
  by_cases direct : name ∈ children.map (·.1)
  · simp only [if_pos direct, Scope.valuesOf_nil, List.nil_append, List.append_nil]
  · have none : children.filter (·.1 = name) = [] := by
      refine List.filter_eq_nil_iff.2 fun child member same => direct ?_
      exact List.mem_map.2 ⟨child, member, of_decide_eq_true same⟩
    simp only [if_neg direct, none, Scope.valuesOf_nil, List.map_nil, List.nil_append]

/-- The scope around one child is in order if that of the child is. -/
theorem ordered_around {inner : Built} (ordered : inner.scope.Ordered) (child : String) :
    (Scope.float [child] inner.scope (Scope.add child [inner.value] [])).Ordered :=
  ordered.float (Scope.Ordered.nil.add (by simp)) _

/-- Around one child its name has its value, and every other name has what it has inside. -/
theorem valuesOf_around {inner : Built} (ordered : inner.scope.Ordered) (child name : String) :
    (Scope.float [child] inner.scope (Scope.add child [inner.value] [])).valuesOf name =
      if name = child then [inner.value] else inner.scope.valuesOf name := by
  rw [Scope.valuesOf_float ordered (Scope.Ordered.nil.add (by simp)), Scope.valuesOf_add .nil]
  by_cases same : name = child <;> simp [same]

end Built

end Utterance

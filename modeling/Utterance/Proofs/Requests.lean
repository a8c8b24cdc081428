import Utterance.Grammar.Lowering

/-!
# What a declaration asks for

An expression is admissible when each of its parts can be made. Each definition asks for elements
under names: its own name and the names inside it are given, and every other part of it asks under
the name that is derived from its shape. Which names are asked for, and for what, can be read off
the expressions: the element of a part has the name that is given to it, or the name of the
definition it refers to, or the derived one (`Expr.name`). `Declaration.requests` lists all requests
of a declaration. Two requests clash when they ask for one name and at least one of them gives it;
a declaration is unambiguous when no derived name is asked for with two shapes.
-/
namespace Utterance

/-- What an element is made of, with its children told by their names. -/
inductive Shape where
  | literals (members : List String)
  | pattern (source : String)
  | sequence (children : List String)
  | choice (children : List String)
  | optional (inner : String)
  | repetition (inner : String) (min : Nat) (max : Option Nat)
deriving Repr, DecidableEq

/-- The name that is derived from a shape. -/
def Shape.name : Shape → String
  | .literals members => Naming.literals members
  | .pattern source => Naming.pattern source
  | .sequence children => Naming.sequence children
  | .choice children => Naming.choice children
  | .optional inner => Naming.optional inner
  | .repetition inner min max => Naming.repetition inner min max

/-- The shape of a kind, given the names of elements. -/
def Kind.shape (nameOf : Nat → String) : Kind → Shape
  | .literals set => .literals set.members
  | .pattern matcher => .pattern matcher.source
  | .sequence children => .sequence (children.map nameOf)
  | .choice children => .choice (children.map nameOf)
  | .optional inner => .optional (nameOf inner)
  | .repetition inner min max => .repetition (nameOf inner) min max

namespace Kind

/-- The name that is derived from a kind is that of its shape. -/
theorem derivedName_eq (nameOf : Nat → String) (kind : Kind) :
    kind.derivedName nameOf = (kind.shape nameOf).name := by
  cases kind <;> rfl

/-- The shape of a kind depends on the names of its children only. -/
theorem shape_congr (kind : Kind) (left right : Nat → String)
    (agree : ∀ child ∈ kind.children, left child = right child) :
    kind.shape left = kind.shape right := by
  cases kind with
  | literals set => rfl
  | pattern matcher => rfl
  | sequence children => exact congrArg Shape.sequence (List.map_congr_left agree)
  | choice children => exact congrArg Shape.choice (List.map_congr_left agree)
  | optional inner => rw [shape, shape, agree inner List.mem_cons_self]
  | repetition inner min max => rw [shape, shape, agree inner List.mem_cons_self]

/-- A kind is told by its shape but for what the shape leaves out: the words of literals, how a
pattern was compiled, and which elements have the names of the children. -/
theorem of_shape_eq {nameOf : Nat → String} {kind : Kind} {shape : Shape}
    (shaped : kind.shape nameOf = shape) :
    match shape with
    | .literals members => ∃ set, kind = .literals set ∧ set.members = members
    | .pattern source => ∃ matcher, kind = .pattern matcher ∧ matcher.source = source
    | .sequence names => ∃ ids, kind = .sequence ids ∧ ids.map nameOf = names
    | .choice names => ∃ ids, kind = .choice ids ∧ ids.map nameOf = names
    | .optional name => ∃ id, kind = .optional id ∧ nameOf id = name
    | .repetition name min max => ∃ id, kind = .repetition id min max ∧ nameOf id = name := by
  subst shaped
  cases kind <;> exact ⟨_, rfl, rfl⟩

end Kind

/-- What is asked for: a name, whether it is given, and the shape of the element. -/
structure Request where
  /-- The name. -/
  name : String
  /-- Whether the name is given, and not derived. -/
  explicit : Bool
  /-- What the element is made of. -/
  shape : Shape
deriving Repr, DecidableEq

/-- The request for a shape under a given name, or else under its derived one. -/
def Shape.request (shape : Shape) (given : Option String) : Request :=
  ⟨given.getD shape.name, given.isSome, shape⟩

/-- Whether two requests ask for one name, which at least one of them gives. -/
def Request.Clashes (left right : Request) : Prop :=
  left.name = right.name ∧ (left.explicit = true ∨ right.explicit = true)

instance (left right : Request) : Decidable (left.Clashes right) :=
  inferInstanceAs (Decidable (_ ∧ _))

/-- Clashing goes both ways. -/
theorem Request.Clashes.symm {left right : Request} (clashes : left.Clashes right) :
    right.Clashes left :=
  ⟨clashes.1.symm, clashes.2.symm⟩

instance : Std.Symm fun left right : Request => ¬ left.Clashes right :=
  ⟨fun _ _ clear clashes => clear clashes.symm⟩

namespace Expr

mutual

/-- Whether every part of an expression can be made: literals have a member that is not blank,
patterns compile, sequences and choices have children, and the bounds of repetitions are in order.
-/
def Admissible (case : CasePolicy) : Expr → Prop
  | .literals members => ∃ member ∈ members, ∃ char ∈ member.toList, Text.isBlank char = false
  | .pattern source => ∃ matcher, Pattern.compile case source = .ok matcher
  | .sequence children => children ≠ [] ∧ AdmissibleAll case children
  | .choice children => children ≠ [] ∧ AdmissibleAll case children
  | .optional inner => Admissible case inner
  | .repetition inner min max =>
    (∀ most, max = some most → 1 ≤ most ∧ min ≤ most) ∧ Admissible case inner
  | .rule _ => True
  | .named _ inner => Admissible case inner

/-- Whether every part of each of some expressions can be made. -/
def AdmissibleAll (case : CasePolicy) : List Expr → Prop
  | [] => True
  | child :: rest => Admissible case child ∧ AdmissibleAll case rest

end

mutual

/-- The name of the element of an expression to which no name is given from outside. -/
def name (case : CasePolicy) : Expr → String
  | .literals members => Naming.literals (LiteralSet.ofMembers case members).members
  | .pattern source => Naming.pattern source
  | .sequence children => Naming.sequence (names case children)
  | .choice children => Naming.choice (names case children)
  | .optional inner => Naming.optional (name case inner)
  | .repetition inner min max => Naming.repetition (name case inner) min max
  | .rule target => target
  | .named given _ => given

/-- The name of each of some expressions. -/
def names (case : CasePolicy) : List Expr → List String
  | [] => []
  | child :: rest => name case child :: names case rest

end

mutual

/-- The requests of an expression under a given name, if there is one, in the order in which they
are made. -/
def requests (case : CasePolicy) : Expr → (given : Option String) → List Request
  | .literals members, given =>
    [(Shape.literals (LiteralSet.ofMembers case members).members).request given]
  | .pattern source, given => [(Shape.pattern source).request given]
  | .sequence children, given =>
    requestsOfAll case children ++ [(Shape.sequence (names case children)).request given]
  | .choice children, given =>
    requestsOfAll case children ++ [(Shape.choice (names case children)).request given]
  | .optional inner, given =>
    requests case inner none ++ [(Shape.optional (name case inner)).request given]
  | .repetition inner min max, given =>
    requests case inner none ++ [(Shape.repetition (name case inner) min max).request given]
  | .rule _, none => []
  | .rule target, some outer => [(Shape.choice [target]).request (some outer)]
  | .named inside inner, none => requests case inner (some inside)
  | .named inside inner, some outer =>
    requests case inner (some inside) ++ [(Shape.choice [inside]).request (some outer)]

/-- The requests of expressions, one expression after another. -/
def requestsOfAll (case : CasePolicy) : List Expr → List Request
  | [] => []
  | child :: rest => requests case child none ++ requestsOfAll case rest

end

/-- The names of expressions are those of each. -/
theorem names_eq_map (case : CasePolicy) (exprs : List Expr) :
    names case exprs = exprs.map (name case) := by
  induction exprs with
  | nil => rfl
  | cons child rest hypothesis => rw [names, hypothesis, List.map_cons]

/-- Under a given name, an expression asks for that name. -/
theorem exists_mem_requests (case : CasePolicy) (expr : Expr) (given : String) :
    ∃ request ∈ expr.requests case (some given),
      request.name = given ∧ request.explicit = true := by
  cases expr <;> simp [requests, Shape.request]

end Expr

/-- The requests of a definition, under its own name. -/
def Definition.requests (case : CasePolicy) (definition : Definition) : List Request :=
  definition.expr.requests case (some definition.name)

/-- The requests of a declaration, one definition after another. -/
def Declaration.requests (declaration : Declaration) : List Request :=
  declaration.definitions.flatMap (·.requests declaration.case)

/-- Whether no derived name is asked for with two shapes. -/
def Declaration.Unambiguous (declaration : Declaration) : Prop :=
  ∀ left ∈ declaration.requests, ∀ right ∈ declaration.requests,
    left.explicit = false → right.explicit = false → left.name = right.name →
      left.shape = right.shape

instance (declaration : Declaration) : Decidable declaration.Unambiguous :=
  inferInstanceAs (Decidable (∀ left ∈ _, ∀ right ∈ _, _))

end Utterance

import Utterance.LiteralSet
import Utterance.Naming
import Utterance.Pattern
import Utterance.Value

/-!
# Grammars

A grammar is a list of elements. An element is a terminal, which tokens match, or a combination of
elements that stand before it in the list; it is known by its place in the list and by its name,
which no other element has. One element is the root, the start symbol. Actions rework the values of
elements after a parse.
-/
namespace Utterance

/-- What is done with the value of an element: another value, or a message of failure. -/
abbrev Action := Value → Except String Value

/-- What an element matches. -/
inductive Kind where
  | literals (set : LiteralSet)
  | pattern (pattern : Pattern)
  | sequence (children : List Nat)
  | choice (children : List Nat)
  | optional (inner : Nat)
  | repetition (inner : Nat) (min : Nat) (max : Option Nat)
deriving Repr, Inhabited

namespace Kind

/-- The name of a kind. -/
def name : Kind → String
  | .literals _ => "Literal-Set"
  | .pattern _ => "Pattern"
  | .sequence _ => "Sequence"
  | .choice _ => "Alternation"
  | .optional _ => "Optional"
  | .repetition _ _ _ => "Repetition"

/-- Whether tokens match the element directly. -/
def isTerminal : Kind → Bool
  | .literals _ => true
  | .pattern _ => true
  | _ => false

/-- The elements that an element is made of. -/
def children : Kind → List Nat
  | .literals _ => []
  | .pattern _ => []
  | .sequence children => children
  | .choice children => children
  | .optional inner => [inner]
  | .repetition inner _ _ => [inner]

/-- Whether an element of this kind has a match without tokens, given which elements have. -/
def nullable (isNullable : Nat → Bool) : Kind → Bool
  | .literals _ => false
  | .pattern _ => false
  | .sequence children => children.all isNullable
  | .choice children => children.any isNullable
  | .optional _ => true
  | .repetition inner min _ => min == 0 || isNullable inner

/-- The name of an element of this kind that has none of its own, given the names of elements. -/
def derivedName (nameOf : Nat → String) : Kind → String
  | .literals set => Naming.literals set.members
  | .pattern matcher => Naming.pattern matcher.source
  | .sequence children => Naming.sequence (children.map nameOf)
  | .choice children => Naming.choice (children.map nameOf)
  | .optional inner => Naming.optional (nameOf inner)
  | .repetition inner min max => Naming.repetition (nameOf inner) min max

end Kind

/-- A named part of a grammar. -/
structure Element where
  /-- The name, unlike that of any other element. -/
  name : String
  /-- Whether the name was given, and not derived. -/
  explicit : Bool
  /-- What the element matches. -/
  kind : Kind
  /-- Whether some match takes no tokens. -/
  nullable : Bool
deriving Repr, Inhabited

/-- The place of the element with a name. -/
def elementIndex? (elements : List Element) (name : String) : Option Nat :=
  elements.findIdx? (·.name == name)

/-- The name of the element at a place. -/
def elementName (elements : List Element) (id : Nat) : String :=
  (elements[id]?.map (·.name)).getD ""

/-- Whether the element at a place has a match without tokens. -/
def elementNullable (elements : List Element) (id : Nat) : Bool :=
  (elements[id]?.map (·.nullable)).getD false

/-- A grammar that is ready to parse. -/
structure Grammar where
  /-- The elements; children stand before their parents. -/
  elements : List Element
  /-- The place of the start symbol. -/
  root : Nat
  /-- Actions by the place of their element. -/
  actions : List (Nat × Action)
  /-- How terminals compare text. -/
  case : CasePolicy

namespace Grammar

/-- The place of the element with a name, given or derived. -/
def lookup? (grammar : Grammar) (name : String) : Option Nat :=
  elementIndex? grammar.elements name

/-- The name of the element at a place. -/
def nameOf (grammar : Grammar) (id : Nat) : String := elementName grammar.elements id

/-- The name of the start symbol. -/
def goalName (grammar : Grammar) : String := grammar.nameOf grammar.root

/-- The number of elements. -/
def size (grammar : Grammar) : Nat := grammar.elements.length

/-- The action of the element at a place. -/
def action? (grammar : Grammar) (id : Nat) : Option Action := grammar.actions.lookup id

end Grammar

end Utterance

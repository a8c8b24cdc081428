import Utterance.Grammar
import Utterance.Text.Quoted

/-!
# Grammars as text

A description of a grammar for people who look into one: its start symbol, every element with its
kind, the names of the elements that have actions, and its options. Records are written with their
field names in braces.
-/
namespace Utterance

/-- Texts in brackets with commas between them. -/
def describeList (items : List String) : String := "[" ++ ", ".intercalate items ++ "]"

/-- A record: its name and its fields with their values. -/
def describeRecord (name : String) (fields : List (String × String)) : String :=
  name ++ " \x7b " ++ ", ".intercalate (fields.map fun field => field.1 ++ ": " ++ field.2) ++
    " \x7d"

/-- The place of an element. -/
def describeId (id : Nat) : String := "ElementId(" ++ toString id ++ ")"

/-- A count that may be missing. -/
def describeCount : Option Nat → String
  | some count => "Some(" ++ toString count ++ ")"
  | none => "None"

/-- A truth value. -/
def describeBool (value : Bool) : String := if value then "true" else "false"

/-- The description of a literal set. -/
def LiteralSet.describe (set : LiteralSet) : String :=
  describeRecord "LiteralSet"
    [("members", describeList (set.members.map Text.quoted)),
      ("words", describeList (set.words.map fun words => describeList (words.map Text.quoted)))]

/-- The description of a kind of element. -/
def Kind.describe : Kind → String
  | .literals set => "Literals(" ++ set.describe ++ ")"
  | .pattern matcher =>
    "Pattern(" ++ describeRecord "Pattern" [("source", Text.quoted matcher.source)] ++ ")"
  | .sequence children => "Sequence(" ++ describeList (children.map describeId) ++ ")"
  | .choice children => "Choice(" ++ describeList (children.map describeId) ++ ")"
  | .optional inner => "Optional(" ++ describeId inner ++ ")"
  | .repetition inner min max =>
    describeRecord "Repeat"
      [("inner", describeId inner), ("min", toString min), ("max", describeCount max)]

/-- The description of an element. -/
def Element.describe (element : Element) : String :=
  describeRecord "Element"
    [("name", Text.quoted element.name), ("explicit", describeBool element.explicit),
      ("kind", element.kind.describe), ("nullable", describeBool element.nullable)]

/-- The description of a case policy. -/
def CasePolicy.describe : CasePolicy → String
  | .insensitive => "Insensitive"
  | .sensitive => "Sensitive"

/-- The description of a grammar. -/
def Grammar.describe (grammar : Grammar) : String :=
  let acting := (grammar.actions.map fun entry => grammar.nameOf entry.1).mergeSort
    fun left right => decide (left ≤ right)
  describeRecord "Grammar"
    [("root", Text.quoted grammar.goalName),
      ("elements", describeList (grammar.elements.map Element.describe)),
      ("actions", describeList (acting.map Text.quoted)),
      ("options", describeRecord "GrammarOptions" [("case", grammar.case.describe)])]

end Utterance

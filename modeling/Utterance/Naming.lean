/-!
# Derived names

An element without a name of its own is named after its kind and the names of its children, so the
same phrase written in two places gets the same name and becomes one element.
-/
namespace Utterance.Naming

/-- Name of a set of literals, from its members. -/
def literals (members : List String) : String := "Set(" ++ "|".intercalate members ++ ")"

/-- Name of a pattern, from its source. -/
def pattern (source : String) : String := "Pattern(" ++ source ++ ")"

/-- Name of a sequence, from the names of its children. -/
def sequence (children : List String) : String := "And(" ++ ", ".intercalate children ++ ")"

/-- Name of a choice, from the names of its children. -/
def choice (children : List String) : String := "Or(" ++ ", ".intercalate children ++ ")"

/-- Name of an optional element, from the name of its child. -/
def optional (child : String) : String := "Optional(" ++ child ++ ")"

/-- Name of a repetition, from the name of its child and its bounds. -/
def repetition (child : String) : (min : Nat) → (max : Option Nat) → String
  | 0, none => "ZeroOrMore(" ++ child ++ ")"
  | 1, none => "OneOrMore(" ++ child ++ ")"
  | min, none => "Repeat(" ++ child ++ ", " ++ toString min ++ ", *)"
  | min, some max => "Repeat(" ++ child ++ ", " ++ toString min ++ ", " ++ toString max ++ ")"

end Utterance.Naming

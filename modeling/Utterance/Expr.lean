import Utterance.Text.Quoted

/-!
# Expressions

An expression describes a phrase: literal words, a pattern, and the combinations of other
expressions. It says nothing about how the phrase is found; a grammar gives its expressions names
and turns them into elements. `Expr.render` shows an expression and `Expr.references` lists the
names of other definitions that it uses.
-/
namespace Utterance

/-- A description of a phrase. -/
inductive Expr where
  /-- Any one of some literal words or phrases. -/
  | literals (members : List String)
  /-- One token that a pattern accepts. -/
  | pattern (source : String)
  /-- All children in order. -/
  | sequence (children : List Expr)
  /-- One of the children. -/
  | choice (children : List Expr)
  /-- The inner phrase or nothing. -/
  | optional (inner : Expr)
  /-- The inner phrase at least `min` times and at most `max` times. -/
  | repetition (inner : Expr) (min : Nat) (max : Option Nat)
  /-- The phrase that another definition describes. -/
  | rule (name : String)
  /-- The inner phrase under a name of its own. -/
  | named (name : String) (inner : Expr)
deriving Repr, Inhabited

namespace Expr

/-- The inner phrase once or more. -/
def oneOrMore (inner : Expr) : Expr := .repetition inner 1 none

/-- The inner phrase any number of times. -/
def zeroOrMore (inner : Expr) : Expr := .repetition inner 0 none

mutual

/-- Names of the definitions that an expression uses, in order of appearance. -/
def references : Expr → List String
  | .literals _ => []
  | .pattern _ => []
  | .sequence children => referencesOfAll children
  | .choice children => referencesOfAll children
  | .optional inner => references inner
  | .repetition inner _ _ => references inner
  | .rule name => [name]
  | .named _ inner => references inner

/-- Names of the definitions that expressions use, one expression after another. -/
def referencesOfAll : List Expr → List String
  | [] => []
  | child :: rest => references child ++ referencesOfAll rest

end

/-- The bounds of a repetition in braces. -/
def renderBounds (min : Nat) : Option Nat → String
  | some max => "\x7b" ++ toString min ++ "," ++ toString max ++ "\x7d"
  | none => "\x7b" ++ toString min ++ ",\x7d"

mutual

/-- The expression as text. -/
def render : Expr → String
  | .literals members => "\x7b" ++ ", ".intercalate (members.map Text.quoted) ++ "\x7d"
  | .pattern source => "/" ++ source ++ "/"
  | .sequence children => "(" ++ " + ".intercalate (renderAll children) ++ ")"
  | .choice children => "(" ++ " | ".intercalate (renderAll children) ++ ")"
  | .optional inner => "[" ++ render inner ++ "]"
  | .repetition inner min max => render inner ++ renderBounds min max
  | .rule name => name
  | .named name inner => name ++ ":" ++ render inner

/-- Each expression as text. -/
def renderAll : List Expr → List String
  | [] => []
  | child :: rest => render child :: renderAll rest

end

end Expr

end Utterance

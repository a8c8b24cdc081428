import Utterance.Text.CharSet

/-!
# Runs of case forms

Most forms of a letter in another case are one character at a constant distance, so a table of them
gives a range of code points and the form of its first member (`41-5a:61`, or `100-12e/2:101` for
every second code point).
-/
namespace Utterance.Unicode

open Utterance.Text (CharSet CharRange)

/-- A run of code points whose forms lie at one distance from them. -/
structure CaseRun where
  /-- First and last code point. -/
  range : CharRange
  /-- Distance between members of the run. -/
  step : Nat
  /-- Form of the first member. -/
  form : Nat
deriving Repr, Inhabited

namespace CaseRun

/-- The form of a code point that belongs to the run. -/
def mapped? (run : CaseRun) (code : Nat) : Option Nat :=
  if run.range.low ≤ code ∧ code ≤ run.range.high ∧ (code - run.range.low) % run.step = 0 then
    some (run.form + (code - run.range.low))
  else none

/-- Members of the run with their forms. -/
def pairs (run : CaseRun) : List (Nat × Nat) :=
  (List.range ((run.range.high - run.range.low) / run.step + 1)).map fun count =>
    (run.range.low + run.step * count, run.form + run.step * count)

/-- A run written by one item of a table. -/
def ofItem (item : List Char) : CaseRun :=
  let (source, target) := item.span (· ≠ ':')
  let form := CharSet.hexValue target
  match source.span (· ≠ '-') with
  | (low, []) => ⟨⟨CharSet.hexValue low, CharSet.hexValue low⟩, 1, form⟩
  | (low, tail) =>
    match tail.span (· ≠ '/') with
    | (high, []) => ⟨⟨CharSet.hexValue low, CharSet.hexValue high⟩, 1, form⟩
    | (high, _) => ⟨⟨CharSet.hexValue low, CharSet.hexValue high⟩, 2, form⟩

/-- Runs written by a table. -/
def ofTable (table : String) : List CaseRun := (CharSet.tableItems table).map ofItem

end CaseRun

end Utterance.Unicode

import Utterance.Text.CharSet

/-!
# Names of sets of characters

Properties and their values have names. Names are compared in a normal form: without regard to case,
blanks, hyphens, underscores and a leading `is`.
-/
namespace Utterance.Unicode

open Utterance.Text (CharSet)

/-- A name in the form in which names are compared. -/
def normalName (name : String) : String :=
  let chars := name.toList
  let (stripped, body) := match chars with
    | first :: second :: rest =>
      if first.toLower = 'i' && second.toLower = 's' then (true, rest) else (false, chars)
    | _ => (false, chars)
  let kept := body.filterMap fun char =>
    if char = ' ' || char = '_' || char = '-' || 127 < char.toNat then none else some char.toLower
  if stripped && kept = ['c'] then "isc" else String.ofList kept

/-- Whether one of some names is the given one, which is in normal form. -/
def namedBy (name : String) (names : List String) : Bool :=
  names.any fun candidate => normalName candidate = name

/-- A set of characters known by one or more names. -/
structure NamedSet where
  /-- Names, the full one first. -/
  names : List String
  /-- Ranges of the members. -/
  table : String
deriving Repr, Inhabited

/-- Members of a named set. -/
def NamedSet.members (set : NamedSet) : CharSet := .ofTable set.table

/-- Members of the first set with a name, which is in normal form. -/
def NamedSet.find? (name : String) (sets : List NamedSet) : Option CharSet :=
  (sets.find? fun set => namedBy name set.names).map NamedSet.members

end Utterance.Unicode

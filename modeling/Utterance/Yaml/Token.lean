/-!
# Tokens of YAML documents

A document is first divided into tokens, each with the places where it starts and stops. Where a
fault is noticed it is described by a problem and its place and, mostly, by what was under way and
where that began.
-/
namespace Utterance.Yaml

/-- A place in a document: the lines before it, the characters of its line before it, and all
characters before it. -/
structure Mark where
  /-- Lines before the place. -/
  line : Nat := 0
  /-- Characters of the line before the place. -/
  column : Nat := 0
  /-- Characters before the place. -/
  index : Nat := 0
deriving Repr, DecidableEq, Inhabited

namespace Mark

/-- Whether the place is the start of the document, which is not worth telling. -/
def isStart (mark : Mark) : Bool := mark.line == 0 && mark.column == 0

/-- Whether two places are in one line and column. -/
def sameAs (mark other : Mark) : Bool := mark.line == other.line && mark.column == other.column

/-- The words for a place, counted from one. -/
def text (mark : Mark) : String :=
  "line " ++ toString (mark.line + 1) ++ " column " ++ toString (mark.column + 1)

/-- The words for a place after others, if it is worth telling. -/
def suffix (mark : Mark) : String := if mark.isStart then "" else " at " ++ mark.text

end Mark

/-- Why a text is not a document. -/
structure Fault where
  /-- What is wrong. -/
  problem : String
  /-- Where it was noticed. -/
  mark : Mark
  /-- What was under way, and where it began. -/
  context : Option (String × Mark) := none
deriving Repr, DecidableEq, Inhabited

/-- The words for a fault. -/
def Fault.message (fault : Fault) : String :=
  fault.problem ++ fault.mark.suffix ++
    match fault.context with
    | none => ""
    | some (context, mark) =>
      ", " ++ context ++ if mark.sameAs fault.mark then "" else mark.suffix

/-- How a scalar is written. -/
inductive Style where
  | plain
  | singleQuoted
  | doubleQuoted
  | literal
  | folded
deriving Repr, DecidableEq, Inhabited

/-- The text of a tag. Where octets are written that are no character, the tag is not legible. -/
structure TagText where
  /-- The text, with a mark for what is no character. -/
  text : String
  /-- Whether the tag is legible. -/
  legible : Bool
deriving Repr, DecidableEq, Inhabited

namespace TagText

/-- What stands for octets that are no character. -/
def replacement : Char := Char.ofNat 0xfffd

/-- The text of characters up to the first of code zero. -/
def ofChars (chars : List (Option Char)) : TagText :=
  let kept := chars.takeWhile fun char => char.all (·.toNat ≠ 0)
  ⟨String.ofList (kept.map (·.getD replacement)), kept.all Option.isSome⟩

/-- One text after another. -/
def append (first second : TagText) : TagText :=
  ⟨first.text ++ second.text, first.legible && second.legible⟩

end TagText

/-- What a token is. -/
inductive Token where
  | streamEnd
  /-- The version of a document. -/
  | version (major minor : Nat)
  /-- What the handle of a tag stands for. -/
  | handle (name : String) (meaning : TagText)
  | documentStart
  | documentEnd
  | blockSequenceStart
  | blockMappingStart
  | blockEnd
  | flowSequenceStart
  | flowSequenceEnd
  | flowMappingStart
  | flowMappingEnd
  | blockEntry
  | flowEntry
  | key
  | value
  | alias (name : String)
  | anchor (name : String)
  | tag (handle : String) (suffix : TagText)
  | scalar (text : String) (style : Style)
deriving Repr, DecidableEq, Inhabited

/-- A token and where it stands. -/
structure PlacedToken where
  /-- The token. -/
  token : Token
  /-- Where it starts. -/
  start : Mark
  /-- Where it stops. -/
  stop : Mark
deriving Repr, DecidableEq, Inhabited

end Utterance.Yaml

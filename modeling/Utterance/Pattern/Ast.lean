import Utterance.Pattern.Fault

/-!
# Structure of a pattern

A pattern is read into a tree that keeps, for each composite node, the part of the pattern it comes
from. Characters, escapes and classes are leaves; groups, repetitions, alternations and
concatenations hold other nodes. A class in brackets is a tree of its own. The composite nodes on a
path from the root are counted, and a pattern that nests deeper than `nestLimit` is refused.
-/
namespace Utterance.Pattern

/-- A mode that a pattern can switch on and off. -/
inductive Flag where
  | caseInsensitive
  | multiLine
  | dotMatchesNewLine
  | swapGreed
  | unicode
  | carriageReturns
  | ignoreBlanks
deriving Repr, DecidableEq, Inhabited

/-- An item of a list of flags. -/
inductive FlagItem where
  /-- The flags after this item are switched off. -/
  | negation
  /-- One flag. -/
  | flag (flag : Flag)
deriving Repr, DecidableEq, Inhabited

/-- What a list of flags does to a flag, if it names the flag. -/
def FlagItem.state (flag : Flag) (items : List FlagItem) : Option Bool :=
  go false items
where
  /-- Look for the flag, knowing whether a negation came before. -/
  go (negated : Bool) : List FlagItem → Option Bool
    | [] => none
    | .negation :: rest => go true rest
    | .flag other :: rest => if other = flag then some !negated else go negated rest

/-- A test of a position that consumes nothing. -/
inductive Assertion where
  | lineStart
  | lineEnd
  | textStart
  | textEnd
  | wordBoundary
  | notWordBoundary
  | wordStart
  | wordEnd
  | wordStartHalf
  | wordEndHalf
deriving Repr, DecidableEq, Inhabited

/-- A single character of a pattern. -/
structure Literal where
  /-- The character. -/
  char : Char
  /-- Whether it is written by two hexadecimal digits, so that it may stand for a byte. -/
  byteEscape : Bool
  /-- Where it stands. -/
  part : Part
deriving Repr, DecidableEq, Inhabited

/-- A short class: digits, blanks or word characters. -/
inductive ShortClass where
  | digit
  | space
  | word
deriving Repr, DecidableEq, Inhabited

/-- A class named inside brackets. -/
inductive AsciiClass where
  | alnum
  | alpha
  | ascii
  | blank
  | cntrl
  | digit
  | graph
  | lower
  | print
  | punct
  | space
  | upper
  | word
  | xdigit
deriving Repr, DecidableEq, Inhabited

/-- A property of characters that a pattern asks for. -/
inductive PropertyQuery where
  /-- A name alone. -/
  | named (name : String)
  /-- A name and a value. -/
  | valued (name value : String) (unequal : Bool)
deriving Repr, DecidableEq, Inhabited

/-- How two sets in brackets are combined. -/
inductive SetOperation where
  | intersection
  | difference
  | symmetricDifference
deriving Repr, DecidableEq, Inhabited

mutual

/-- One item between brackets. -/
inductive ClassItem where
  | empty (part : Part)
  | literal (literal : Literal)
  | range (low high : Literal)
  | ascii (part : Part) (kind : AsciiClass) (negated : Bool)
  | property (part : Part) (query : PropertyQuery) (negated : Bool)
  | short (part : Part) (kind : ShortClass) (negated : Bool)
  | bracketed (part : Part) (negated : Bool) (set : ClassSet)
  | union (part : Part) (items : List ClassItem)

/-- What stands between brackets. -/
inductive ClassSet where
  | item (item : ClassItem)
  | operation (part : Part) (kind : SetOperation) (left right : ClassSet)

end

instance : Inhabited ClassItem := ⟨.empty ⟨0, 0⟩⟩
instance : Inhabited ClassSet := ⟨.item default⟩

/-- A pattern as a tree. -/
inductive Ast where
  | empty (part : Part)
  | flags (part : Part) (items : List FlagItem)
  | literal (literal : Literal)
  | dot (part : Part)
  | assertion (part : Part) (kind : Assertion)
  | property (part : Part) (query : PropertyQuery) (negated : Bool)
  | short (part : Part) (kind : ShortClass) (negated : Bool)
  | bracketed (part : Part) (negated : Bool) (set : ClassSet)
  | repetition (part : Part) (inner : Ast) (min : Nat) (max : Option Nat)
  | group (part : Part) (flags : List FlagItem) (inner : Ast)
  | alternation (part : Part) (branches : List Ast)
  | concat (part : Part) (items : List Ast)

instance : Inhabited Ast := ⟨.empty ⟨0, 0⟩⟩

/-- Where an item between brackets stands. -/
def ClassItem.part : ClassItem → Part
  | .empty part => part
  | .literal char => char.part
  | .range low high => ⟨low.part.start, high.part.stop⟩
  | .ascii part _ _ => part
  | .property part _ _ => part
  | .short part _ _ => part
  | .bracketed part _ _ => part
  | .union part _ => part

/-- Where the contents of brackets stand. -/
def ClassSet.part : ClassSet → Part
  | .item entry => entry.part
  | .operation part _ _ _ => part

/-- Where a node stands. -/
def Ast.part : Ast → Part
  | .empty part => part
  | .flags part _ => part
  | .literal char => char.part
  | .dot part => part
  | .assertion part _ => part
  | .property part _ _ => part
  | .short part _ _ => part
  | .bracketed part _ _ => part
  | .repetition part _ _ _ => part
  | .group part _ _ => part
  | .alternation part _ => part
  | .concat part _ => part

/-- How deep composite nodes may nest. -/
def nestLimit : Nat := 250

/-- Refuse a composite node that lies inside `depth` others when that is one too many. -/
def checkDepth (depth : Nat) (part : Part) : Except Problem Unit :=
  if depth < nestLimit then .ok () else .error ⟨.nestLimitExceeded nestLimit, some part⟩

mutual

/-- Check the nesting of an item between brackets. -/
def ClassItem.checkNesting (depth : Nat) : ClassItem → Except Problem Unit
  | .bracketed part _ set => do
    checkDepth depth part
    set.checkNesting (depth + 1)
  | .union part items => do
    checkDepth depth part
    ClassItem.checkNestingAll (depth + 1) items
  | _ => .ok ()

/-- Check the nesting of items between brackets, from left to right. -/
def ClassItem.checkNestingAll (depth : Nat) : List ClassItem → Except Problem Unit
  | [] => .ok ()
  | item :: rest => do
    item.checkNesting depth
    ClassItem.checkNestingAll depth rest

/-- Check the nesting of what stands between brackets. -/
def ClassSet.checkNesting (depth : Nat) : ClassSet → Except Problem Unit
  | .item entry => entry.checkNesting depth
  | .operation part _ left right => do
    checkDepth depth part
    left.checkNesting (depth + 1)
    right.checkNesting (depth + 1)

end

mutual

/-- Check the nesting of a node that lies inside `depth` composite nodes. -/
def Ast.checkNesting (depth : Nat) : Ast → Except Problem Unit
  | .bracketed part _ set => do
    checkDepth depth part
    set.checkNesting (depth + 1)
  | .repetition part inner _ _ => do
    checkDepth depth part
    inner.checkNesting (depth + 1)
  | .group part _ inner => do
    checkDepth depth part
    inner.checkNesting (depth + 1)
  | .alternation part branches => do
    checkDepth depth part
    Ast.checkNestingAll (depth + 1) branches
  | .concat part items => do
    checkDepth depth part
    Ast.checkNestingAll (depth + 1) items
  | _ => .ok ()

/-- Check the nesting of nodes from left to right. -/
def Ast.checkNestingAll (depth : Nat) : List Ast → Except Problem Unit
  | [] => .ok ()
  | node :: rest => do
    node.checkNesting depth
    Ast.checkNestingAll depth rest

end

end Utterance.Pattern

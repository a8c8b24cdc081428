import Utterance.Pattern.Class
import Utterance.Pattern.Regex
import Utterance.Unicode.CaseOrbit

/-!
# Meaning of a pattern

The tree of a pattern becomes a regular expression under the modes in force at each node. Modes set
in a group end with the group; modes set among the branches of an alternation stay for the later
branches. Where the mode for all scripts is off, classes are limited to ASCII, and what could match
part of a character is refused.
-/
namespace Utterance.Pattern

open Utterance.Text (CharSet)

/-- Modes in force. -/
structure Modes where
  /-- Characters that differ in case only are taken as equal. -/
  caseInsensitive : Bool := false
  /-- Line anchors match at every line. -/
  multiLine : Bool := false
  /-- The dot matches line feeds too. -/
  dotMatchesNewLine : Bool := false
  /-- Classes and case are those of all scripts. -/
  unicode : Bool := true
  /-- A carriage return ends a line too. -/
  carriageReturns : Bool := false
deriving Repr, DecidableEq, Inhabited

/-- Modes after a list of flags. -/
def Modes.apply (modes : Modes) (items : List FlagItem) : Modes where
  caseInsensitive := (FlagItem.state .caseInsensitive items).getD modes.caseInsensitive
  multiLine := (FlagItem.state .multiLine items).getD modes.multiLine
  dotMatchesNewLine := (FlagItem.state .dotMatchesNewLine items).getD modes.dotMatchesNewLine
  unicode := (FlagItem.state .unicode items).getD modes.unicode
  carriageReturns := (FlagItem.state .carriageReturns items).getD modes.carriageReturns

/-- The set closed under case, where case is ignored. -/
def Modes.closeCase (modes : Modes) (set : CharSet) : CharSet :=
  if !modes.caseInsensitive then set
  else if modes.unicode then Unicode.CaseOrbit.closure set
  else Unicode.CaseOrbit.asciiClosure set

/-- The set, negated if asked; without the mode for all scripts it has to be ASCII. -/
def Modes.limit (modes : Modes) (part : Part) (negated : Bool) (set : CharSet) :
    Except Problem CharSet :=
  let result := if negated then set.complement else set
  if modes.unicode || result.isAscii then .ok result
  else .error ⟨.invalidUtf8, some part⟩

/-- A class closed under case and negated if asked. -/
def Modes.finish (modes : Modes) (part : Part) (negated : Bool) (set : CharSet) :
    Except Problem CharSet :=
  modes.limit part negated (modes.closeCase set)

/-- The characters of a short class. -/
def Modes.short (modes : Modes) (part : Part) (kind : ShortClass) (negated : Bool) :
    Except Problem CharSet :=
  modes.limit part negated (if modes.unicode then kind.members else kind.asciiMembers)

/-- The characters with a property. -/
def Modes.property (modes : Modes) (part : Part) (query : PropertyQuery) (negated : Bool) :
    Except Problem CharSet :=
  if !modes.unicode then .error ⟨.unicodeNotAllowed, some part⟩
  else
    let unequal := match query with
      | .valued _ _ unequal => unequal
      | .named _ => false
    match query.members with
    | .error fault => .error ⟨fault, some part⟩
    | .ok set => modes.finish part (negated != unequal) set

/-- A character outside brackets; two hexadecimal digits cannot stand for part of a character. -/
def Modes.checkByte (modes : Modes) (found : Literal) : Except Problem Char :=
  if !modes.unicode && found.byteEscape && 127 < found.char.toNat then
    .error ⟨.invalidUtf8, some found.part⟩
  else .ok found.char

/-- A character between brackets; without the mode for all scripts it has to be ASCII. -/
def Modes.classChar (modes : Modes) (found : Literal) : Except Problem Char := do
  let char ← modes.checkByte found
  if !modes.unicode && 127 < char.toNat then .error ⟨.unicodeNotAllowed, some found.part⟩
  else .ok char

/-- Combine two sets by a set operation. -/
def SetOperation.apply : SetOperation → CharSet → CharSet → CharSet
  | .intersection => CharSet.intersect
  | .difference => CharSet.difference
  | .symmetricDifference => CharSet.symmetricDifference

mutual

/-- The characters of an item between brackets. -/
def ClassItem.members (modes : Modes) : ClassItem → Except Problem CharSet
  | .empty _ => .ok .empty
  | .literal found => do
    let char ← modes.classChar found
    .ok (.single char)
  | .range low high => do
    let first ← modes.classChar low
    let last ← modes.classChar high
    .ok (.between first last)
  | .ascii part kind negated => modes.finish part negated kind.members
  | .property part query negated => modes.property part query negated
  | .short part kind negated => modes.short part kind negated
  | .bracketed part negated set => do
    let inner ← set.members modes
    modes.finish part negated inner
  | .union _ items => ClassItem.membersOfAll modes items

/-- The characters of any of some items between brackets. -/
def ClassItem.membersOfAll (modes : Modes) : List ClassItem → Except Problem CharSet
  | [] => .ok .empty
  | item :: rest => do
    let first ← item.members modes
    let others ← ClassItem.membersOfAll modes rest
    .ok (first.union others)

/-- The characters of what stands between brackets. -/
def ClassSet.members (modes : Modes) : ClassSet → Except Problem CharSet
  | .item entry => entry.members modes
  | .operation _ kind left right => do
    let first ← left.members modes
    let second ← right.members modes
    .ok (kind.apply (modes.closeCase first) (modes.closeCase second))

end

/-- The test of an assertion. -/
def Modes.look (modes : Modes) : Assertion → Look
  | .lineStart =>
    if !modes.multiLine then .textStart
    else if modes.carriageReturns then .crlfStart
    else .lineStart
  | .lineEnd =>
    if !modes.multiLine then .textEnd else if modes.carriageReturns then .crlfEnd else .lineEnd
  | .textStart => .textStart
  | .textEnd => .textEnd
  | .wordBoundary => .wordBoundary
  | .notWordBoundary => .notWordBoundary
  | .wordStart => .wordStart
  | .wordEnd => .wordEnd
  | .wordStartHalf => .wordStartHalf
  | .wordEndHalf => .wordEndHalf

/-- Whether an assertion asks what a word is. -/
def Assertion.isWord (kind : Assertion) : Bool :=
  !(kind matches .lineStart | .lineEnd | .textStart | .textEnd)

/-- The characters that the dot matches. -/
def Modes.dot (modes : Modes) : CharSet :=
  if modes.dotMatchesNewLine then .all
  else if modes.carriageReturns then (CharSet.unions [.single '\n', .single '\r']).complement
  else (CharSet.single '\n').complement

/-- What a node means, and the modes in force after it. -/
structure Meaning where
  /-- The regular expression. -/
  regex : Regex
  /-- Whether it asks what a word of all scripts is. -/
  asksWords : Bool
  /-- Modes in force after the node. -/
  modes : Modes
deriving Inhabited

mutual

/-- What a node means under some modes. -/
def Ast.meaning (modes : Modes) : Ast → Except Problem Meaning
  | .empty _ => .ok ⟨.empty, false, modes⟩
  | .flags _ items => .ok ⟨.empty, false, modes.apply items⟩
  | .literal found => do
    let char ← modes.checkByte found
    .ok ⟨.chars (modes.closeCase (.single char)), false, modes⟩
  | .dot part =>
    if modes.unicode then .ok ⟨.chars modes.dot, false, modes⟩
    else .error ⟨.invalidUtf8, some part⟩
  | .assertion _ kind => .ok ⟨.look (modes.look kind), kind.isWord && modes.unicode, modes⟩
  | .property part query negated => do
    let set ← modes.property part query negated
    .ok ⟨.chars set, false, modes⟩
  | .short part kind negated => do
    let set ← modes.short part kind negated
    .ok ⟨.chars set, false, modes⟩
  | .bracketed part negated set => do
    let inner ← set.members modes
    let result ← modes.finish part negated inner
    .ok ⟨.chars result, false, modes⟩
  | .repetition _ inner min max => do
    let found ← inner.meaning modes
    if max = some 0 then .ok ⟨.empty, false, found.modes⟩
    else .ok ⟨.repetition found.regex min max, found.asksWords, found.modes⟩
  | .group _ own inner => do
    let found ← inner.meaning (modes.apply own)
    .ok ⟨found.regex, found.asksWords, modes⟩
  | .alternation _ branches => Ast.meaningOfAny modes branches
  | .concat _ items => Ast.meaningOfAll modes items

/-- What nodes mean one after another. -/
def Ast.meaningOfAll (modes : Modes) : List Ast → Except Problem Meaning
  | [] => .ok ⟨.empty, false, modes⟩
  | node :: rest => do
    let first ← node.meaning modes
    let others ← Ast.meaningOfAll first.modes rest
    .ok ⟨.concat first.regex others.regex, first.asksWords || others.asksWords, others.modes⟩

/-- What a choice of nodes means. -/
def Ast.meaningOfAny (modes : Modes) : List Ast → Except Problem Meaning
  | [] => .ok ⟨.chars .empty, false, modes⟩
  | node :: rest => do
    let first ← node.meaning modes
    let others ← Ast.meaningOfAny first.modes rest
    .ok ⟨.alternate first.regex others.regex, first.asksWords || others.asksWords, others.modes⟩

end

end Utterance.Pattern

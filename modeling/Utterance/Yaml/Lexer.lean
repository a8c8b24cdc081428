import Utterance.Yaml.Chars
import Utterance.Yaml.Token

/-!
# Reading characters of YAML documents

The state of the division into tokens, and the steps that read characters. A lexer knows where it
is, the tokens found so far, how deep it is in flow collections, the indentation of the block
collections around it, and for each flow level the place of a node that may turn out to be a key.
-/
namespace Utterance.Yaml

/-- A node that may turn out to be a key, once a colon follows it. -/
structure KeyCandidate where
  /-- Whether the node has to be a key. -/
  required : Bool
  /-- The number of tokens before the node. -/
  position : Nat
  /-- Where the node starts. -/
  mark : Mark
deriving Repr, DecidableEq, Inhabited

/-- The state of the division into tokens. -/
structure Lexer where
  /-- Characters still to be read. -/
  rest : List Char
  /-- Where the first of them is. -/
  mark : Mark := {}
  /-- Tokens found so far. -/
  tokens : List PlacedToken := []
  /-- The indentation of the innermost block collection; none outside all of them. -/
  indent : Option Nat := none
  /-- The indentations around it. -/
  indents : List (Option Nat) := []
  /-- Whether a node may be a key here. -/
  keyAllowed : Bool := true
  /-- The possible key of the innermost flow level, or of the block level. -/
  candidate : Option KeyCandidate := none
  /-- The possible keys of the levels around it. -/
  outer : List (Option KeyCandidate) := []
deriving Repr, Inhabited

/-- A step of the division into tokens. -/
abbrev Lex := EStateM Fault Lexer

/-- Whether a character, or the end of the text, ends a word. -/
def endsWord (char : Option Char) : Bool := !char.any fun char => !isBlank char && !isBreak char

/-- Whether a character, or the end of the text, ends a line. -/
def endsLine (char : Option Char) : Bool := !char.any fun char => !isBreak char

/-- Whether a document marker stands at the front of some characters. -/
def hasMarker : List Char → Bool
  | '-' :: '-' :: '-' :: rest => endsWord rest.head?
  | '.' :: '.' :: '.' :: rest => endsWord rest.head?
  | _ => false

namespace Lexer

/-- Whether the place is inside a flow collection. -/
def inFlow (lexer : Lexer) : Bool := !lexer.outer.isEmpty

/-- The least indentation of what belongs to the innermost block collection. -/
def nextIndent (lexer : Lexer) : Nat := (lexer.indent.map (· + 1)).getD 0

/-- Whether a column lies outside the innermost block collection. -/
def leaves (lexer : Lexer) (column : Option Nat) : Bool :=
  match lexer.indent, column with
  | none, _ => false
  | some _, none => true
  | some indent, some column => column < indent

/-- The lexer after the next character, which does not end a line. -/
def skip (lexer : Lexer) : Lexer :=
  { lexer with
    rest := lexer.rest.tail
    mark := ⟨lexer.mark.line, lexer.mark.column + 1, lexer.mark.index + 1⟩ }

/-- The lexer after the line break that comes next; a carriage return and a line feed are one. -/
def skipBreak (lexer : Lexer) : Lexer :=
  match lexer.rest with
  | '\r' :: '\n' :: rest =>
    { lexer with rest, mark := ⟨lexer.mark.line + 1, 0, lexer.mark.index + 2⟩ }
  | _ :: rest => { lexer with rest, mark := ⟨lexer.mark.line + 1, 0, lexer.mark.index + 1⟩ }
  | [] => lexer

end Lexer

/-- The next character. -/
def peek : Lex (Option Char) := do return (← get).rest.head?

/-- The character after the next one. -/
def peekSecond : Lex (Option Char) := do return (← get).rest.tail.head?

/-- Pass over the next character. -/
def skip : Lex Unit := modify Lexer.skip

/-- Pass over some characters. -/
def skipMany : Nat → Lex Unit
  | 0 => pure ()
  | count + 1 => do
    skip
    skipMany count

/-- Take a line break, which counts as a line feed unless it is a separator of lines or paragraphs.
-/
def takeBreak : Lex (List Char) := do
  let lexer ← get
  set lexer.skipBreak
  match lexer.rest.head? with
  | some char => return if char.toNat = 0x2028 || char.toNat = 0x2029 then [char] else ['\n']
  | none => return []

/-- Take characters that do not end a line while a test holds. -/
def takeWhile (test : Char → Bool) : Lex (List Char) :=
  modifyGet fun lexer =>
    let taken := lexer.rest.takeWhile test
    (taken, { lexer with
      rest := lexer.rest.dropWhile test
      mark := ⟨lexer.mark.line, lexer.mark.column + taken.length,
        lexer.mark.index + taken.length⟩ })

/-- Stop at the current place. -/
def stopHere {α : Type} (problem : String) : Lex α := do
  throw { problem, mark := (← get).mark }

/-- Stop at the current place inside something that began earlier. -/
def stopIn {α : Type} (context : String) (start : Mark) (problem : String) : Lex α := do
  throw { problem, mark := (← get).mark, context := some (context, start) }

/-- Add a token after all others. -/
def push (token : Token) (start stop : Mark) : Lex Unit :=
  modify fun lexer => { lexer with tokens := lexer.tokens ++ [⟨token, start, stop⟩] }

/-- Add a token before the tokens from a position on. -/
def insertAt (position : Nat) (token : Token) (mark : Mark) : Lex Unit :=
  modify fun lexer =>
    { lexer with
      tokens := lexer.tokens.take position ++ [⟨token, mark, mark⟩] ++ lexer.tokens.drop position }

/-- Stop because a node that has to be a key is not followed by a colon. -/
def missingColon {α : Type} (candidate : KeyCandidate) : Lex α :=
  stopIn "while scanning a simple key" candidate.mark "could not find expected ':'"

/-- Give up the possible key of the current level. -/
def dropCandidate : Lex Unit := do
  match (← get).candidate with
  | some candidate =>
    if candidate.required then missingColon candidate
    else modify fun lexer => { lexer with candidate := none }
  | none => pure ()

/-- Remember that the node that starts here may be a key. -/
def saveCandidate : Lex Unit := do
  let lexer ← get
  if lexer.keyAllowed then
    dropCandidate
    modify fun lexer =>
      { lexer with
        candidate := some ⟨!lexer.inFlow && lexer.indent == some lexer.mark.column,
          lexer.tokens.length, lexer.mark⟩ }

/-- Whether a possible key is too far back: on an earlier line, or more than 1024 characters. -/
def KeyCandidate.isStale (candidate : KeyCandidate) (mark : Mark) : Bool :=
  candidate.mark.line < mark.line || candidate.mark.index + 1024 < mark.index

/-- Give up possible keys that are too far back. -/
def dropStale : Lex Unit := do
  let lexer ← get
  let stale := fun (candidate : KeyCandidate) => candidate.isStale lexer.mark
  match (lexer.candidate :: lexer.outer).reverse.filterMap id |>.find? fun candidate =>
      stale candidate && candidate.required with
  | some candidate => missingColon candidate
  | none =>
    let keep := fun (candidate : Option KeyCandidate) => candidate.filter fun found => !stale found
    set { lexer with candidate := keep lexer.candidate, outer := lexer.outer.map keep }

/-- Open a block collection at a column, if it is deeper than the one around it. -/
def openBlock (column position : Nat) (token : Token) (mark : Mark) : Lex Unit := do
  let lexer ← get
  if !lexer.inFlow && lexer.indent.all (· < column) then
    insertAt position token mark
    modify fun lexer =>
      { lexer with indent := some column, indents := lexer.indent :: lexer.indents }

/-- Close the block collections that are deeper than a column, or all of them. -/
def closeBlocks (column : Option Nat) : Lex Unit :=
  modify fun lexer =>
    if lexer.inFlow then lexer else go lexer.indents lexer
where
  /-- Close one block collection after another. -/
  go : List (Option Nat) → Lexer → Lexer
    | [], lexer => lexer
    | previous :: earlier, lexer =>
      if lexer.leaves column then
        go earlier { lexer with
          indent := previous
          indents := earlier
          tokens := lexer.tokens ++ [⟨.blockEnd, lexer.mark, lexer.mark⟩] }
      else lexer

/-- Whether a character is a mark of the order of bytes. -/
def isByteOrderMark (char : Char) : Bool := char.toNat = 0xfeff

/-- Pass over blanks, comments and line breaks before a token, and over a mark of the order of bytes
at the start of a line. Each step passes at least one
character, so `fuel` is the number of characters left. -/
def skipToToken : (fuel : Nat) → Lex Unit
  | 0 => pure ()
  | fuel + 1 => do
    if (← get).mark.column == 0 && (← peek).any isByteOrderMark then skip
    let lexer ← get
    let tabs := lexer.inFlow || !lexer.keyAllowed
    let _ ← takeWhile fun char => char = ' ' || (tabs && char = '\t')
    if (← peek) = some '#' then
      let _ ← takeWhile fun char => !isBreak char
    match ← peek with
    | some char =>
      if isBreak char then
        let _ ← takeBreak
        if !lexer.inFlow then modify fun lexer => { lexer with keyAllowed := true }
        skipToToken fuel
    | none => pure ()

end Utterance.Yaml

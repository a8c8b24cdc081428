import Utterance.Text.Split
import Utterance.Yaml.Lexer

/-!
# Scalars of YAML documents

A scalar is plain, quoted, or a block. Lines of a plain or quoted scalar are folded: one line break
becomes a blank, and of several the first is dropped. A block keeps its line breaks or folds them,
and its header says what becomes of those at its end.
-/
namespace Utterance.Yaml

/-- Text of a scalar under way, with the blanks and line breaks after it that may belong to it. -/
structure Folding where
  /-- The text. -/
  text : List Char := []
  /-- Blanks after the text on its line. -/
  blanks : List Char := []
  /-- Whether a line ended after the text. -/
  broken : Bool := false
  /-- The first line break after the text. -/
  first : List Char := []
  /-- Further line breaks. -/
  more : List Char := []
deriving Repr, Inhabited

namespace Folding

/-- Add what stands between the text and the next character to the text. -/
def join (folding : Folding) : Folding :=
  if folding.broken then
    let between :=
      if folding.first.head? = some '\n' then
        if folding.more.isEmpty then [' '] else folding.more
      else folding.first ++ folding.more
    { text := folding.text ++ between }
  else { text := folding.text ++ folding.blanks }

/-- Add characters to the text. -/
def add (folding : Folding) (chars : List Char) : Folding :=
  { folding with text := folding.text ++ chars }

end Folding

/-- Take blanks and line breaks after a part of a scalar. A tab at the start of a line before the
column `indent` is refused where the scalar is plain. -/
def foldBlanks (start : Mark) (indent : Option Nat) :
    (fuel : Nat) → Folding → Lex Folding
  | 0, folding => return folding
  | fuel + 1, folding => do
    match ← peek with
    | none => return folding
    | some char =>
      if isBlank char then
        let column := (← get).mark.column
        if folding.broken && char = '\t' && indent.any (column < ·) then
          stopIn "while scanning a plain scalar" start
            "found a tab character that violates indentation"
        else
          skip
          foldBlanks start indent fuel
            (if folding.broken then folding
            else { folding with blanks := folding.blanks ++ [char] })
      else if isBreak char then
        let line ← takeBreak
        foldBlanks start indent fuel
          (if folding.broken then { folding with more := folding.more ++ line }
          else { folding with blanks := [], broken := true, first := line })
      else return folding

/-- Whether a character inside a flow collection ends a plain scalar. -/
def isFlowIndicator (char : Char) : Bool :=
  char = ',' || char = '[' || char = ']' || char = '\x7b' || char = '\x7d'

/-- Take characters of a plain scalar up to a blank, a line break or an indicator. -/
def plainRun (start : Mark) : (fuel : Nat) → Folding → Mark → Lex (Folding × Mark)
  | 0, folding, stop => return (folding, stop)
  | fuel + 1, folding, stop => do
    let lexer ← get
    match lexer.rest with
    | [] => return (folding, stop)
    | char :: rest =>
      if isBlank char || isBreak char then return (folding, stop)
      else if lexer.inFlow && char = ':' &&
          rest.head?.any (fun next => next = '?' || isFlowIndicator next) then
        stopIn "while scanning a plain scalar" start "found unexpected ':'"
      else if (char = ':' && endsWord rest.head?) || (lexer.inFlow && isFlowIndicator char) then
        return (folding, stop)
      else
        let joined := if folding.broken || !folding.blanks.isEmpty then folding.join else folding
        skip
        plainRun start fuel (joined.add [char]) (← get).mark

/-- Take a plain scalar, line after line. -/
def plainGo (start : Mark) (indent : Nat) : (fuel : Nat) → Folding → Mark → Lex (Folding × Mark)
  | 0, folding, stop => return (folding, stop)
  | fuel + 1, folding, stop => do
    let lexer ← get
    if (lexer.mark.column == 0 && hasMarker lexer.rest) || lexer.rest.head? = some '#' then
      return (folding, stop)
    else
      let (folding, stop) ← plainRun start lexer.rest.length folding stop
      if !((← peek).any fun char => isBlank char || isBreak char) then return (folding, stop)
      else
        let folding ← foldBlanks start (some indent) (← get).rest.length folding
        let after ← get
        if !after.inFlow && after.mark.column < indent then return (folding, stop)
        else plainGo start indent fuel folding stop

/-- Take a plain scalar. -/
def scanPlain : Lex Unit := do
  let lexer ← get
  let (folding, stop) ← plainGo lexer.mark lexer.nextIndent (lexer.rest.length + 1) {} lexer.mark
  push (.scalar (String.ofList folding.text) .plain) lexer.mark stop
  if folding.broken then modify fun lexer => { lexer with keyAllowed := true }

/-- What a one-letter escape stands for. -/
def simpleEscape? (char : Char) : Option Nat :=
  match char with
  | '0' => some 0
  | 'a' => some 7
  | 'b' => some 8
  | 't' | '\t' => some 9
  | 'n' => some 10
  | 'v' => some 11
  | 'f' => some 12
  | 'r' => some 13
  | 'e' => some 27
  | ' ' => some 32
  | '"' => some 34
  | '/' => some 47
  | '\\' => some 92
  | 'N' => some 0x85
  | '_' => some 0xa0
  | 'L' => some 0x2028
  | 'P' => some 0x2029
  | _ => none

/-- The number of digits of an escape by code point. -/
def escapeDigits? (char : Char) : Option Nat :=
  match char with
  | 'x' => some 2
  | 'u' => some 4
  | 'U' => some 8
  | _ => none

/-- Take an escape of a quoted scalar. -/
def scanEscape (start : Mark) : Lex Char := do
  let context := "while parsing a quoted scalar"
  let letter := (← peekSecond).getD ' '
  match simpleEscape? letter, escapeDigits? letter, ← peekSecond with
  | some code, _, some _ =>
    skipMany 2
    return Char.ofNat code
  | none, some count, some _ =>
    skipMany 2
    match ((← get).rest.take count).mapM Text.hexDigit? with
    | some digits =>
      if digits.length < count then
        stopIn context start "did not find expected hexadecimal number"
      else
        let code := digits.foldl (fun total digit => 16 * total + digit) 0
        if (0xD800 ≤ code && code ≤ 0xDFFF) || 0x10FFFF < code then
          stopIn context start "found invalid Unicode character escape code"
        else
          skipMany count
          return Char.ofNat code
    | none => stopIn context start "did not find expected hexadecimal number"
  | _, _, _ => stopIn context start "found unknown escape character"

/-- Take characters of a quoted scalar up to a blank, a line break or the closing quote. -/
def quotedRun (start : Mark) (quote : Char) : (fuel : Nat) → Folding → Lex Folding
  | 0, folding => return folding
  | fuel + 1, folding => do
    let lexer ← get
    match lexer.rest with
    | [] => return folding
    | char :: rest =>
      if isBlank char || isBreak char then return folding
      else if char = quote then
        if quote = apostrophe && rest.head? = some apostrophe then
          skipMany 2
          quotedRun start quote fuel (folding.add [apostrophe])
        else return folding
      else if quote = '"' && char = '\\' then
        if rest.head?.any isBreak then
          skip
          let _ ← takeBreak
          return { folding with broken := true }
        else
          let escaped ← scanEscape start
          quotedRun start quote fuel (folding.add [escaped])
      else
        skip
        quotedRun start quote fuel (folding.add [char])

/-- Take a quoted scalar up to its closing quote. -/
def quotedGo (start : Mark) (quote : Char) : (fuel : Nat) → Folding → Lex Folding
  | 0, folding => return folding
  | fuel + 1, folding => do
    let lexer ← get
    let context := "while scanning a quoted scalar"
    if lexer.mark.column == 0 && hasMarker lexer.rest then
      stopIn context start "found unexpected document indicator"
    else if lexer.rest.isEmpty then stopIn context start "found unexpected end of stream"
    else
      let folding ← quotedRun start quote (lexer.rest.length + 1) folding
      if (← peek) = some quote then return folding
      else
        let folding ← foldBlanks start none (← get).rest.length folding
        quotedGo start quote fuel folding.join

/-- Take a quoted scalar. -/
def scanQuoted (quote : Char) : Lex Unit := do
  let start := (← get).mark
  skip
  let folding ← quotedGo start quote ((← get).rest.length + 1) {}
  skip
  push (.scalar (String.ofList folding.text)
    (if quote = '"' then .doubleQuoted else .singleQuoted)) start (← get).mark

/-- What becomes of the line breaks at the end of a block. -/
inductive Chomping where
  | strip
  | clip
  | keep
deriving Repr, DecidableEq, Inhabited

/-- Take the chomping mark of a block header. -/
def scanChomping : Lex Chomping := do
  match ← peek with
  | some '+' =>
    skip
    return .keep
  | some '-' =>
    skip
    return .strip
  | _ => return .clip

/-- Take the indentation digit of a block header. -/
def scanIndentation (start : Mark) : Lex (Option Nat) := do
  match ← peek with
  | some char =>
    if char = '0' then
      stopIn "while scanning a block scalar" start "found an indentation indicator equal to 0"
    else if char.isDigit then
      skip
      return some (char.toNat - '0'.toNat)
    else return none
  | none => return none

/-- Take the header of a block: its chomping and its indentation, in either order. -/
def scanHeader (start : Mark) : Lex (Chomping × Option Nat) := do
  let first ← peek
  if first.any fun char => char = '+' || char = '-' then
    let chomping ← scanChomping
    return (chomping, ← scanIndentation start)
  else
    let indentation ← scanIndentation start
    return (← scanChomping, indentation)

/-- Take the empty lines of a block and the indentation of the line after them. Without an
indentation known, the deepest one met is given. -/
def blockBreaks (start : Mark) (indent : Option Nat) :
    (fuel : Nat) → (deepest : Nat) → (breaks : List Char) → (stop : Mark) →
    Lex (Nat × List Char × Mark)
  | 0, deepest, breaks, stop => return (deepest, breaks, stop)
  | fuel + 1, deepest, breaks, stop => do
    let room := (indent.map (· - (← get).mark.column)).getD (← get).rest.length
    let spaces := ((← get).rest.takeWhile (· = ' ')).length
    skipMany (min room spaces)
    let column := (← get).mark.column
    let deepest := max deepest column
    match ← peek with
    | some char =>
      if indent.all (column < ·) && char = '\t' then
        stopIn "while scanning a block scalar" start
          "found a tab character where an indentation space is expected"
      else if isBreak char then
        let line ← takeBreak
        blockBreaks start indent fuel deepest (breaks ++ line) (← get).mark
      else return (deepest, breaks, stop)
    | none => return (deepest, breaks, stop)

/-- Text of a block under way. -/
structure BlockText where
  /-- The text. -/
  text : List Char := []
  /-- The line break after the text. -/
  first : List Char := []
  /-- The empty lines after that. -/
  more : List Char := []
  /-- Whether the last line starts with a blank. -/
  blank : Bool := false
  /-- Where the block stops. -/
  stop : Mark
deriving Repr, Inhabited

/-- Take the lines of a block. -/
def blockLines (start : Mark) (literal : Bool) (indent : Nat) :
    (fuel : Nat) → BlockText → Lex BlockText
  | 0, block => return block
  | fuel + 1, block => do
    let lexer ← get
    if lexer.mark.column != indent || lexer.rest.isEmpty then return block
    else
      let blank := lexer.rest.head?.any isBlank
      let between :=
        if !literal && block.first.head? = some '\n' && !block.blank && !blank then
          if block.more.isEmpty then [' '] else []
        else block.first
      let line ← takeWhile fun char => !isBreak char
      let ending ← takeBreak
      let after ← get
      let (_, more, stop) ← blockBreaks start (some indent) (after.rest.length + 1) 0 [] after.mark
      blockLines start literal indent fuel
        { text := block.text ++ between ++ block.more ++ line, first := ending, more, blank, stop }

/-- Take a block scalar. -/
def scanBlock (literal : Bool) : Lex Unit := do
  let start := (← get).mark
  let outer := (← get).indent
  skip
  let (chomping, indentation) ← scanHeader start
  let _ ← takeWhile isBlank
  if (← peek) = some '#' then
    let _ ← takeWhile fun char => !isBreak char
  if !endsLine (← peek) then
    stopIn "while scanning a block scalar" start "did not find expected comment or line break"
  if (← peek).isSome then
    let _ ← takeBreak
  let lexer ← get
  let known := indentation.map ((outer.getD 0) + ·)
  let (deepest, more, stop) ← blockBreaks start known (lexer.rest.length + 1) 0 [] lexer.mark
  let indent := known.getD (max (max deepest lexer.nextIndent) 1)
  let block ← blockLines start literal indent ((← get).rest.length + 1) { more, stop }
  let tail := match chomping with
    | .strip => []
    | .clip => block.first
    | .keep => block.first ++ block.more
  push (.scalar (String.ofList (block.text ++ tail)) (if literal then .literal else .folded)) start
    block.stop

end Utterance.Yaml

import Utterance.Yaml.Lexer.Scalars
import Utterance.Yaml.Lexer.Tags

/-!
# The division of YAML documents into tokens

`tokenize` gives the tokens of a document and, where the document cannot be divided to its end, the
fault. A node that may turn out to be a key holds back all tokens from it on, so after a fault the
tokens stop before the first such node.
-/
namespace Utterance.Yaml

/-- Take an anchor, or the use of one. -/
def scanAnchor (isAlias : Bool) : Lex Unit := do
  let start := (← get).mark
  skip
  let name ← takeWhile isNameChar
  let next ← peek
  let ended := endsWord next || next.any fun char => "?:,]\x7d%@`".toList.contains char
  if name.isEmpty || !ended then
    stopIn (if isAlias then "while scanning an alias" else "while scanning an anchor") start
      "did not find expected alphabetic or numeric character"
  else
    let text := String.ofList name
    push (if isAlias then .alias text else .anchor text) start (← get).mark

/-- Forbid keys up to the next line. -/
def forbidKey : Lex Unit := modify fun lexer => { lexer with keyAllowed := false }

/-- Allow a key next. -/
def allowKey : Lex Unit := modify fun lexer => { lexer with keyAllowed := true }

/-- Take a token of some characters. -/
def scanMark (token : Token) (size : Nat) : Lex Unit := do
  let start := (← get).mark
  skipMany size
  push token start (← get).mark

/-- Leave all block collections, before what belongs to the stream and not to a document. -/
def leaveDocument : Lex Unit := do
  closeBlocks none
  dropCandidate
  forbidKey

/-- End the stream. -/
def endStream : Lex Unit := do
  modify fun lexer =>
    if lexer.mark.column == 0 then lexer
    else { lexer with mark := ⟨lexer.mark.line + 1, 0, lexer.mark.index⟩ }
  leaveDocument
  let mark := (← get).mark
  push .streamEnd mark mark

/-- Open a flow collection. -/
def openFlow (token : Token) : Lex Unit := do
  saveCandidate
  modify fun lexer =>
    { lexer with candidate := none, outer := lexer.candidate :: lexer.outer, keyAllowed := true }
  scanMark token 1

/-- Close a flow collection. -/
def closeFlow (token : Token) : Lex Unit := do
  dropCandidate
  modify fun lexer =>
    match lexer.outer with
    | [] => lexer
    | candidate :: outer => { lexer with candidate, outer }
  forbidKey
  scanMark token 1

/-- Divide entries of a flow collection. -/
def flowEntry : Lex Unit := do
  dropCandidate
  allowKey
  scanMark .flowEntry 1

/-- Start an entry of a block sequence. -/
def blockEntry : Lex Unit := do
  let lexer ← get
  if !lexer.inFlow then
    if lexer.keyAllowed then
      openBlock lexer.mark.column lexer.tokens.length .blockSequenceStart lexer.mark
    else stopHere "block sequence entries are not allowed in this context"
  dropCandidate
  allowKey
  scanMark .blockEntry 1

/-- Start a key that is marked as one. -/
def explicitKey : Lex Unit := do
  let lexer ← get
  if !lexer.inFlow then
    if lexer.keyAllowed then
      openBlock lexer.mark.column lexer.tokens.length .blockMappingStart lexer.mark
    else stopHere "mapping keys are not allowed in this context"
  dropCandidate
  if lexer.inFlow then forbidKey else allowKey
  scanMark .key 1

/-- Start a value. The node before it was a key, if it may be one. -/
def startValue : Lex Unit := do
  let lexer ← get
  match lexer.candidate with
  | some candidate =>
    insertAt candidate.position .key candidate.mark
    openBlock candidate.mark.column candidate.position .blockMappingStart candidate.mark
    modify fun lexer => { lexer with candidate := none }
    forbidKey
  | none =>
    if lexer.inFlow then forbidKey
    else if lexer.keyAllowed then
      openBlock lexer.mark.column lexer.tokens.length .blockMappingStart lexer.mark
      allowKey
    else stopHere "mapping values are not allowed in this context"
  scanMark .value 1

/-- Start a node that may be a key, and take it. -/
def scanNode (scan : Lex Unit) : Lex Unit := do
  saveCandidate
  forbidKey
  scan

/-- Take a block scalar. -/
def scanBlockNode (literal : Bool) : Lex Unit := do
  dropCandidate
  allowKey
  scanBlock literal

/-- Whether a plain scalar starts with two characters. -/
def startsPlain (inFlow : Bool) (char : Char) (second : Option Char) : Bool :=
  if char = '-' then !second.any isBlank
  else if char = '?' || char = ':' then !inFlow && !endsWord second
  else !(",[]\x7b\x7d#&*!|>'\"%@`".toList.contains char)

/-- Take the next token. The answer is whether the stream goes on. -/
def scanToken : Lex Bool := do
  skipToToken ((← get).rest.length + 1)
  dropStale
  closeBlocks (some (← get).mark.column)
  let lexer ← get
  match lexer.rest with
  | [] =>
    endStream
    return false
  | char :: rest =>
    let second := rest.head?
    if lexer.mark.column == 0 && char = '%' then
      leaveDocument
      scanDirective
    else if lexer.mark.column == 0 && hasMarker lexer.rest then
      leaveDocument
      scanMark (if char = '-' then .documentStart else .documentEnd) 3
    else if char = '[' then openFlow .flowSequenceStart
    else if char = '\x7b' then openFlow .flowMappingStart
    else if char = ']' then closeFlow .flowSequenceEnd
    else if char = '\x7d' then closeFlow .flowMappingEnd
    else if char = ',' then flowEntry
    else if char = '-' && endsWord second then blockEntry
    else if char = '?' && (lexer.inFlow || endsWord second) then explicitKey
    else if char = ':' && (lexer.inFlow || endsWord second) then startValue
    else if char = '*' then scanNode (scanAnchor true)
    else if char = '&' then scanNode (scanAnchor false)
    else if char = '!' then scanNode scanTag
    else if char = '|' && !lexer.inFlow then scanBlockNode true
    else if char = '>' && !lexer.inFlow then scanBlockNode false
    else if char = apostrophe || char = '"' then scanNode (scanQuoted char)
    else if startsPlain lexer.inFlow char second && !isBlank char then scanNode scanPlain
    else
      stopIn "while scanning for the next token" lexer.mark
        "found character that cannot start any token"
    return true

/-- Take the next token and give up possible keys that it leaves too far back. -/
def scanStep : Lex Bool := do
  let more ← scanToken
  dropStale
  return more

/-- Take tokens to the end of the stream, each of at least one character. Where a token cannot be
taken, the answer is the state before it and the fault. -/
def scanTokens : (fuel : Nat) → Lexer → Lexer × Option Fault
  | 0, lexer => (lexer, none)
  | fuel + 1, lexer =>
    match scanStep lexer with
    | .ok true next => scanTokens fuel next
    | .ok false next => (next, none)
    | .error fault _ => (lexer, some fault)

/-- The tokens that can be told: those before every node that may turn out to be a key. -/
def Lexer.settled (lexer : Lexer) : List PlacedToken :=
  let pending := (lexer.candidate :: lexer.outer).filterMap id |>.map (·.position)
  lexer.tokens.take (pending.foldl min lexer.tokens.length)

/-- Whether a character may stand in a document. -/
def isAllowed (char : Char) : Bool :=
  let code := char.toNat
  code = 0x9 || code = 0xa || code = 0xd || (0x20 ≤ code && code ≤ 0x7e) || code = 0x85 ||
    (0xa0 ≤ code && code ≤ 0xd7ff) || (0xe000 ≤ code && code ≤ 0xfffd) || 0x10000 ≤ code

/-- The bytes before the first character that may not stand in a document. -/
def firstForbidden? (offset : Nat) : List Char → Option Nat
  | [] => none
  | char :: rest =>
    if isAllowed char then firstForbidden? (offset + char.utf8Size) rest else some offset

/-- The fault of a character that may not stand in a document. -/
def forbiddenFault (offset : Nat) : Fault :=
  { problem := "control characters are not allowed" ++
      if offset = 0 then "" else " at position " ++ toString offset
    mark := {} }

/-- The tokens of a text, and what is wrong where they stop too early. -/
def tokenize (text : String) : List PlacedToken × Option Fault :=
  let (offset, chars) := match text.toList with
    | char :: rest => if isByteOrderMark char then (char.utf8Size, rest) else (0, char :: rest)
    | [] => (0, [])
  match firstForbidden? offset chars with
  | some offset => ([], some (forbiddenFault offset))
  | none =>
    match scanTokens (chars.length + 2) { rest := chars } with
    | (lexer, none) => (lexer.tokens, none)
    | (lexer, some fault) => (lexer.settled, some fault)

end Utterance.Yaml

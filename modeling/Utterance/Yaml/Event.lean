import Utterance.Yaml.Lexer.Tokens

/-!
# Events of YAML documents

The tokens of a document tell a story of nodes: scalars, uses of anchored nodes, and sequences and
mappings that start and end. `Document.ofText` gives the events of the first document of a text as
far as they can be told, what is wrong if they stop too early, and whether another document follows.
Every function below takes a token at each step or hands on to one that does, so a few times the
number of tokens suffices as fuel.
-/
namespace Utterance.Yaml

/-- A step in the story of a document. -/
inductive Event where
  /-- The use of the node whose first event has a place in the list of events. -/
  | alias (target : Nat)
  | scalar (text : String) (style : Style) (tag : Option TagText)
  | sequenceStart (tag : Option TagText)
  | sequenceEnd
  | mappingStart (tag : Option TagText)
  | mappingEnd
deriving Repr, DecidableEq, Inhabited

/-- An event and where it begins. -/
structure PlacedEvent where
  /-- The event. -/
  event : Event
  /-- Where it begins. -/
  mark : Mark
deriving Repr, DecidableEq, Inhabited

/-- Tokens still to be told, and the events so far. -/
structure Telling where
  /-- The tokens. -/
  tokens : List PlacedToken
  /-- Why the tokens stop. -/
  fault : Fault
  /-- Events so far. -/
  events : List PlacedEvent := []
  /-- Anchors with the places of their nodes, the latest first. -/
  anchors : List (String × Nat) := []
  /-- What the handles of tags stand for. -/
  handles : List (String × TagText) := []
deriving Repr, Inhabited

/-- What handles stand for unless a document says otherwise. -/
def standardHandles : List (String × TagText) :=
  [("!", ⟨"!", true⟩), ("!!", ⟨"tag:yaml.org,2002:", true⟩)]

/-- A step of the story. -/
abbrev Tell := EStateM Fault Telling

/-- The next token. -/
def peekToken : Tell PlacedToken := do
  match (← get).tokens with
  | token :: _ => return token
  | [] => throw (← get).fault

/-- Pass over the next token. -/
def dropToken : Tell Unit := modify fun telling => { telling with tokens := telling.tokens.tail }

/-- Add an event, perhaps with an anchor. -/
def emit (event : Event) (mark : Mark) (anchor : Option String) : Tell Unit :=
  modify fun telling =>
    { telling with
      events := telling.events ++ [⟨event, mark⟩]
      anchors := match anchor with
        | some name => (name, telling.events.length) :: telling.anchors
        | none => telling.anchors }

/-- Add a scalar that is not written. -/
def emitEmpty (mark : Mark) : Tell Unit := emit (.scalar "" .plain none) mark none

/-- Stop at a token, inside something that began earlier. -/
def stopAt {α : Type} (context : String) (start : Mark) (problem : String) (token : PlacedToken) :
    Tell α :=
  throw { problem, mark := token.start, context := some (context, start) }

/-- What stands before the content of a node. -/
structure Properties where
  /-- The anchor. -/
  anchor : Option String := none
  /-- The tag, with its handle replaced. -/
  tag : Option TagText := none
deriving Repr, Inhabited

/-- Take an anchor. -/
def readAnchor : Tell (Option String) := do
  match (← peekToken).token with
  | .anchor name =>
    dropToken
    return some name
  | _ => return none

/-- Take a tag. -/
def readTag (start : Mark) : Tell (Option TagText) := do
  let token ← peekToken
  match token.token with
  | .tag handle suffix =>
    dropToken
    if handle.isEmpty then return some suffix
    else
      match ((← get).handles ++ standardHandles).lookup handle with
      | some meaning => return some (meaning.append suffix)
      | none => stopAt "while parsing a node" start "found undefined tag handle" token
  | _ => return none

/-- Take an anchor and a tag in either order. -/
def readProperties (start : Mark) : Tell Properties := do
  match ← readAnchor with
  | some name => return ⟨some name, ← readTag start⟩
  | none =>
    let tag ← readTag start
    if tag.isSome then return ⟨← readAnchor, tag⟩ else return {}

/-- Tell the use of an anchored node. -/
def tellAlias (name : String) (mark : Mark) : Tell Unit := do
  match (← get).anchors.lookup name with
  | some target => emit (.alias target) mark none
  | none => throw { problem := "unknown anchor", mark }

/-- Whether a token ends an entry of a block mapping. -/
def endsBlockEntry : Token → Bool
  | .key | .value | .blockEnd => true
  | _ => false

/-- Tell a node without content: it is empty if something stands before it, and else a fault. -/
def tellMissing (block : Bool) (start : Mark) (properties : Properties) (token : PlacedToken) :
    Tell Unit :=
  if properties.anchor.isSome || properties.tag.isSome then
    emit (.scalar "" .plain properties.tag) start properties.anchor
  else
    stopAt (if block then "while parsing a block node" else "while parsing a flow node") start
      "did not find expected node content" token

mutual

/-- Tell a node. -/
def tellNode : (fuel : Nat) → (block indentless : Bool) → Tell Unit
  | 0, _, _ => pure ()
  | fuel + 1, block, indentless => do
    let first ← peekToken
    let start := first.start
    match first.token with
    | .alias name =>
      dropToken
      tellAlias name start
    | _ =>
      let properties ← readProperties start
      let token ← peekToken
      let anchor := properties.anchor
      let tag := properties.tag
      match token.token, block with
      | .scalar text style, _ =>
        dropToken
        emit (.scalar text style (tag.filter (·.text ≠ "!"))) start anchor
      | .flowSequenceStart, _ =>
        dropToken
        emit (.sequenceStart tag) start anchor
        tellFlowSequence fuel token.start true
      | .flowMappingStart, _ =>
        dropToken
        emit (.mappingStart tag) start anchor
        tellFlowMapping fuel token.start true
      | .blockSequenceStart, true =>
        dropToken
        emit (.sequenceStart tag) start anchor
        tellBlockSequence fuel token.start
      | .blockMappingStart, true =>
        dropToken
        emit (.mappingStart tag) start anchor
        tellBlockMapping fuel token.start
      | .blockEntry, _ =>
        if indentless then
          emit (.sequenceStart tag) start anchor
          tellIndentless fuel
        else tellMissing block start properties token
      | _, _ => tellMissing block start properties token

/-- Tell the entries of a block sequence. -/
def tellBlockSequence : (fuel : Nat) → (start : Mark) → Tell Unit
  | 0, _ => pure ()
  | fuel + 1, start => do
    let token ← peekToken
    match token.token with
    | .blockEntry =>
      dropToken
      match (← peekToken).token with
      | .blockEntry | .blockEnd => emitEmpty token.stop
      | _ => tellNode fuel true false
      tellBlockSequence fuel start
    | .blockEnd =>
      dropToken
      emit .sequenceEnd token.start none
    | _ =>
      stopAt "while parsing a block collection" start "did not find expected '-' indicator" token

/-- Tell the entries of a sequence that is not indented below its key. -/
def tellIndentless : (fuel : Nat) → Tell Unit
  | 0 => pure ()
  | fuel + 1 => do
    let token ← peekToken
    match token.token with
    | .blockEntry =>
      dropToken
      match (← peekToken).token with
      | .blockEntry | .key | .value | .blockEnd => emitEmpty token.stop
      | _ => tellNode fuel true false
      tellIndentless fuel
    | _ => emit .sequenceEnd token.start none

/-- Tell the entries of a block mapping. -/
def tellBlockMapping : (fuel : Nat) → (start : Mark) → Tell Unit
  | 0, _ => pure ()
  | fuel + 1, start => do
    let token ← peekToken
    match token.token with
    | .key =>
      dropToken
      if endsBlockEntry (← peekToken).token then emitEmpty token.stop else tellNode fuel true true
      tellBlockValue fuel
      tellBlockMapping fuel start
    | .blockEnd =>
      dropToken
      emit .mappingEnd token.start none
    | _ => stopAt "while parsing a block mapping" start "did not find expected key" token

/-- Tell the value of an entry of a block mapping. -/
def tellBlockValue : (fuel : Nat) → Tell Unit
  | 0 => pure ()
  | fuel + 1 => do
    let token ← peekToken
    match token.token with
    | .value =>
      dropToken
      if endsBlockEntry (← peekToken).token then emitEmpty token.stop else tellNode fuel true true
    | _ => emitEmpty token.start

/-- Tell the entries of a flow sequence. -/
def tellFlowSequence : (fuel : Nat) → (start : Mark) → (first : Bool) → Tell Unit
  | 0, _, _ => pure ()
  | fuel + 1, start, first => do
    let token ← peekToken
    if token.token = .flowSequenceEnd then
      dropToken
      emit .sequenceEnd token.start none
    else
      if !first then
        if token.token = .flowEntry then dropToken
        else stopAt "while parsing a flow sequence" start "did not find expected ',' or ']'" token
      let token ← peekToken
      match token.token with
      | .key =>
        dropToken
        emit (.mappingStart none) token.start none
        tellFlowPair fuel
        tellFlowSequence fuel start false
      | .flowSequenceEnd =>
        dropToken
        emit .sequenceEnd token.start none
      | _ =>
        tellNode fuel false false
        tellFlowSequence fuel start false

/-- Tell a pair that stands in a flow sequence. -/
def tellFlowPair : (fuel : Nat) → Tell Unit
  | 0 => pure ()
  | fuel + 1 => do
    let token ← peekToken
    match token.token with
    | .value | .flowEntry | .flowSequenceEnd =>
      dropToken
      emitEmpty token.stop
    | _ => tellNode fuel false false
    let token ← peekToken
    if token.token = .value then
      dropToken
      let token ← peekToken
      match token.token with
      | .flowEntry | .flowSequenceEnd => emitEmpty token.start
      | _ => tellNode fuel false false
    else emitEmpty token.start
    emit .mappingEnd (← peekToken).start none

/-- Tell the entries of a flow mapping. -/
def tellFlowMapping : (fuel : Nat) → (start : Mark) → (first : Bool) → Tell Unit
  | 0, _, _ => pure ()
  | fuel + 1, start, first => do
    let token ← peekToken
    if token.token = .flowMappingEnd then
      dropToken
      emit .mappingEnd token.start none
    else
      if !first then
        if token.token = .flowEntry then dropToken
        else stopAt "while parsing a flow mapping" start "did not find expected ',' or '\x7d'" token
      let token ← peekToken
      match token.token with
      | .key =>
        dropToken
        let token ← peekToken
        match token.token with
        | .value | .flowEntry | .flowMappingEnd => emitEmpty token.start
        | _ => tellNode fuel false false
        tellFlowValue fuel
        tellFlowMapping fuel start false
      | .flowMappingEnd =>
        dropToken
        emit .mappingEnd token.start none
      | _ =>
        tellNode fuel false false
        emitEmpty (← peekToken).start
        tellFlowMapping fuel start false

/-- Tell the value of an entry of a flow mapping. -/
def tellFlowValue : (fuel : Nat) → Tell Unit
  | 0 => pure ()
  | fuel + 1 => do
    let token ← peekToken
    if token.token = .value then
      dropToken
      let token ← peekToken
      match token.token with
      | .flowEntry | .flowMappingEnd => emitEmpty token.start
      | _ => tellNode fuel false false
    else emitEmpty token.start

end

/-- Whether documents of a version can be read. -/
def isKnownVersion (major minor : Nat) : Bool := major = 1 && (minor = 1 || minor = 2)

/-- Take the directives before a document. `versioned` tells whether one has stated a version. -/
def readDirectives : (fuel : Nat) → (versioned : Bool) → Tell Unit
  | 0, _ => pure ()
  | fuel + 1, versioned => do
    let token ← peekToken
    let stop (problem : String) : Tell Unit := throw { problem, mark := token.start }
    match token.token with
    | .version major minor =>
      if versioned then stop "found duplicate %YAML directive"
      else if !isKnownVersion major minor then stop "found incompatible YAML document"
      else
        dropToken
        readDirectives fuel true
    | .handle name meaning =>
      if ((← get).handles.lookup name).isSome then stop "found duplicate %TAG directive"
      else
        modify fun telling => { telling with handles := (name, meaning) :: telling.handles }
        dropToken
        readDirectives fuel versioned
    | _ => pure ()

/-- Tell the content of a document after its marker. -/
def tellContent (fuel : Nat) : Tell Unit := do
  let token ← peekToken
  match token.token with
  | .version _ _ | .handle _ _ | .documentStart | .documentEnd | .streamEnd =>
    emitEmpty token.start
  | _ => tellNode fuel true false

/-- Tell the end of a document, which the token after its content shows. -/
def tellDocumentEnd : Tell Unit := do
  if (← peekToken).token = .documentEnd then dropToken

/-- Tell the first document. -/
def tellDocument (fuel : Nat) : Tell Unit := do
  let token ← peekToken
  match token.token with
  | .streamEnd => pure ()
  | .version _ _ | .handle _ _ | .documentStart =>
    readDirectives fuel false
    let token ← peekToken
    if token.token = .documentStart then
      dropToken
      tellContent fuel
      tellDocumentEnd
    else throw { problem := "did not find expected <document start>", mark := token.start }
  | _ =>
    tellNode fuel true false
    tellDocumentEnd

/-- Whether tokens after a document begin another one. -/
def goesOn : List PlacedToken → Bool
  | [] => true
  | token :: rest =>
    match token.token with
    | .documentEnd => goesOn rest
    | .streamEnd => false
    | _ => true

/-- The first document of a text. -/
structure Document where
  /-- Its events, as far as they can be told. -/
  events : List PlacedEvent
  /-- What is wrong, if they stop too early. -/
  fault : Option Fault
  /-- Whether another document follows. -/
  more : Bool
deriving Repr, Inhabited

/-- The first document of a text. -/
def Document.ofText (text : String) : Document :=
  let (tokens, fault) := tokenize text
  match tellDocument (4 * tokens.length + 4) { tokens, fault := fault.getD default } with
  | .ok _ telling => ⟨telling.events, none, goesOn telling.tokens⟩
  | .error fault telling => ⟨telling.events, some fault, false⟩

end Utterance.Yaml

/-!
# Diagnostics

Everything that can go wrong is a `Fault`. A diagnostic adds where it went wrong: a named piece of
source text, a span of its bytes, the phase of work, and perhaps advice. `Fault.message` holds the
words; the code of a diagnostic is made from its phase and the kind of fault.
-/
namespace Utterance

/-- What went wrong. -/
inductive Fault where
  /-- A pattern cannot be used. -/
  | invalidPattern (pattern reason : String)
  /-- The start symbol has no definition. -/
  | missingGoal (goal : String)
  /-- A definition uses a name that has none. -/
  | undefinedReference (rule reference : String)
  /-- Definitions use each other in a circle. -/
  | cyclicGrammar (cycle : List String)
  /-- A name is given twice. -/
  | duplicateBinding (name : String)
  /-- A literal set has no member that is not blank. -/
  | emptyLiteralSet (rule : String)
  /-- The bounds of a repetition admit nothing. -/
  | invalidRepeat (rule reason : String)
  /-- A sequence or choice has no children. -/
  | emptyCombinator (rule : String)
  /-- An action is registered for a name that no element has. -/
  | unknownActionTarget (name : String)
  /-- The start symbol does not match anywhere. -/
  | noParse (goal : String) (tokens : Nat)
  /-- An action failed on a value. -/
  | postProcessing (key message : String)
  /-- A configuration document cannot be used. -/
  | invalidConfig (message : String)
deriving Repr, DecidableEq, Inhabited

/-- Kinds of work in which a fault arises. -/
inductive FaultCategory where
  | grammar
  | matching
  | postProcessing
  | config
deriving Repr, DecidableEq, Inhabited

namespace Fault

/-- The words for a fault. -/
def message : Fault → String
  | .invalidPattern pattern reason =>
    "Grammar error: invalid pattern '" ++ pattern ++ "': " ++ reason
  | .missingGoal goal => "Grammar error: no binding for the start symbol '" ++ goal ++ "'"
  | .undefinedReference rule reference =>
    "Grammar error: '" ++ rule ++ "' references undefined element '" ++ reference ++ "'"
  | .cyclicGrammar cycle => "Grammar error: cyclic reference " ++ " -> ".intercalate cycle
  | .duplicateBinding name => "Grammar error: '" ++ name ++ "' is bound more than once"
  | .emptyLiteralSet rule =>
    "Grammar error: literal set in '" ++ rule ++ "' has no usable members"
  | .invalidRepeat rule reason =>
    "Grammar error: invalid repetition bounds in '" ++ rule ++ "': " ++ reason
  | .emptyCombinator rule => "Grammar error: '" ++ rule ++ "' combines no elements"
  | .unknownActionTarget name =>
    "Grammar error: action registered for unknown element '" ++ name ++ "'"
  | .noParse goal tokens =>
    "No parse: '" ++ goal ++ "' could not be matched anywhere in " ++ toString tokens ++ " token(s)"
  | .postProcessing key message => "Action error on '" ++ key ++ "': " ++ message
  | .invalidConfig message => "Config error: " ++ message

/-- The kind of work in which a fault arises. -/
def category : Fault → FaultCategory
  | .noParse _ _ => .matching
  | .postProcessing _ _ => .postProcessing
  | .invalidConfig _ => .config
  | _ => .grammar

/-- The last part of a diagnostic's code. -/
def code : Fault → String
  | .invalidPattern _ _ => "invalid_pattern"
  | .missingGoal _ => "missing_goal"
  | .undefinedReference _ _ => "undefined_reference"
  | .cyclicGrammar _ => "cyclic_grammar"
  | .duplicateBinding _ => "duplicate_binding"
  | .emptyLiteralSet _ => "empty_literal_set"
  | .invalidRepeat _ _ => "invalid_repeat"
  | .emptyCombinator _ => "empty_combinator"
  | .unknownActionTarget _ => "unknown_action_target"
  | .noParse _ _ => "no_parse"
  | .postProcessing _ _ => "post_processing"
  | .invalidConfig _ => "invalid_config"

/-- The label under the span of a diagnostic. -/
def label : Fault → String
  | .invalidPattern _ _ => "invalid pattern"
  | .missingGoal _ => "start symbol missing"
  | .undefinedReference _ _ => "undefined reference"
  | .cyclicGrammar _ => "cycle starts here"
  | .duplicateBinding _ => "bound again here"
  | .emptyLiteralSet _ => "empty literal set"
  | .invalidRepeat _ _ => "invalid bounds"
  | .emptyCombinator _ => "nothing to combine"
  | .unknownActionTarget _ => "unknown element"
  | .noParse _ _ => "no match in this input"
  | .postProcessing _ _ => "action failed on this value"
  | .invalidConfig _ => "invalid configuration"

/-- Whether the fault is that nothing matched. -/
def isNoParse : Fault → Bool
  | .noParse _ _ => true
  | _ => false

end Fault

/-- A named piece of text that a diagnostic points into. -/
structure Source where
  /-- What the text is. -/
  name : String
  /-- The text. -/
  content : String
deriving Repr, DecidableEq, Inhabited

/-- Consecutive bytes of a text. -/
structure ByteSpan where
  /-- Bytes before the span. -/
  offset : Nat
  /-- Bytes in the span. -/
  length : Nat
deriving Repr, DecidableEq, Inhabited

namespace ByteSpan

/-- The empty span at the start, for faults that have no place. -/
def nowhere : ByteSpan := ⟨0, 0⟩

/-- The span from one byte up to another that is not included. -/
def between (start stop : Nat) : ByteSpan := ⟨start, stop - start⟩

end ByteSpan

namespace Source

/-- The span of the whole text. -/
def fullSpan (source : Source) : ByteSpan := ⟨0, source.content.utf8ByteSize⟩

/-- Bytes before the first place where some characters stand in others. -/
def offsetOf? (needle : List Char) : List Char → Option Nat
  | [] => if needle.isEmpty then some 0 else none
  | char :: rest =>
    if needle.isPrefixOf (char :: rest) then some 0
    else (offsetOf? needle rest).map (char.utf8Size + ·)

/-- The first place where some text stands, or else the whole source. -/
def find (source : Source) (needle : String) : ByteSpan :=
  match offsetOf? needle.toList source.content.toList with
  | some offset => ⟨offset, needle.utf8ByteSize⟩
  | none => source.fullSpan

end Source

/-- A fault, where it lies and what may help. -/
structure Diagnostic where
  /-- What went wrong. -/
  fault : Fault
  /-- The text at fault. -/
  source : Source
  /-- The part of the text at fault. -/
  span : ByteSpan
  /-- The phase of work. -/
  phase : String
  /-- Advice. -/
  help : Option String := none
deriving Repr, DecidableEq, Inhabited

namespace Diagnostic

/-- The code of a diagnostic. -/
def code (diagnostic : Diagnostic) : String :=
  "vakya::" ++ diagnostic.phase ++ "::" ++ diagnostic.fault.code

/-- A fault in a grammar's definitions. -/
def ofGrammar (fault : Fault) (source : Source) (span : ByteSpan) : Diagnostic :=
  { fault, source, span, phase := "grammar" }

/-- The same diagnostic with advice. -/
def withHelp (diagnostic : Diagnostic) (help : String) : Diagnostic :=
  { diagnostic with help := some help }

/-- Advice for a reference to a name without a definition. -/
def undefinedReferenceHelp (reference : String) : String :=
  "define '" ++ reference ++ "' with GrammarBuilder::define"

/-- Nothing matched an input of some number of tokens. -/
def noParse (goal input : String) (tokens : Nat) : Diagnostic :=
  let source : Source := ⟨"input", input⟩
  { fault := .noParse goal tokens, source, span := source.fullSpan, phase := "match"
    help := some "the input lacks a terminal the start symbol requires" }

/-- A configuration document in some format cannot be used. -/
def invalidConfig (format content message : String) : Diagnostic :=
  let source : Source := ⟨format, content⟩
  { fault := .invalidConfig message, source, span := source.fullSpan, phase := "config" }

end Diagnostic

end Utterance

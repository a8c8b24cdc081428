import Utterance.Result

/-!
# Parsers

A parser joins a grammar with options and a tokenizer. Its parses of an input are the trees of the
start symbol with their results, the preferred one first and no more than the options allow. The
first parse is the first tree, whatever the bound on their number is, unless that bound is zero.

`Parses` hands out the parses one by one. It counts the calls that it may still answer beside the
roots that it has handed out.
-/
namespace Utterance

/-- One way to read an input. -/
structure Outcome where
  /-- The tree of spans. -/
  tree : ParseTree
  /-- The values by name and in order. -/
  result : ParseResult
deriving Repr, Inhabited

namespace Outcome

/-- The outcome of a tree. -/
def ofTree (grammar : Grammar) (tree : ParseTree) : Outcome := ⟨tree, tree.result grammar⟩

/-- The value bound to a name. -/
def get? (outcome : Outcome) (name : String) : Option Value := outcome.result.get? name

/-- Words of the input that no element consumed. -/
def noise (outcome : Outcome) : List String := outcome.tree.noiseWords

end Outcome

/-- Parses of one input that are made when they are asked for. -/
structure Parses where
  /-- The grammar. -/
  grammar : Grammar
  /-- The tokens of the input. -/
  tokens : List Token
  /-- The matches of the start symbol, the preferred one first. -/
  roots : List Candidate
  /-- How many of the matches have been handed out. -/
  cursor : Nat := 0
  /-- How many calls may still be answered, if there is a bound. -/
  remaining : Option Nat

namespace Parses

/-- The outcome of a match of the start symbol. -/
def outcome (parses : Parses) (root : Candidate) : Outcome :=
  .ofTree parses.grammar
    (.ofRoot (.ofCandidate parses.grammar.elements parses.tokens root) parses.tokens)

/-- The outcome of the match at the cursor, which moves on if there is one. -/
def advance (parses : Parses) : Option Outcome × Parses :=
  match parses.roots[parses.cursor]? with
  | none => (none, parses)
  | some root => (some (parses.outcome root), { parses with cursor := parses.cursor + 1 })

/-- The next parse. A call counts against the bound whether or not there is a match left. -/
def next (parses : Parses) : Option Outcome × Parses :=
  match parses.remaining with
  | some 0 => (none, parses)
  | some (count + 1) => { parses with remaining := some count }.advance
  | none => parses.advance

/-- What is left after some calls. -/
def after (parses : Parses) : (calls : Nat) → Parses
  | 0 => parses
  | calls + 1 => parses.next.2.after calls

/-- The parses that further calls hand out. -/
def rest (parses : Parses) : List Outcome :=
  let roots := parses.roots.drop parses.cursor
  let allowed := match parses.remaining with
    | some count => roots.take count
    | none => roots
  allowed.map parses.outcome

end Parses

/-- A grammar with options and a tokenizer. -/
structure Parser where
  /-- The grammar. -/
  grammar : Grammar
  /-- Options of the search. -/
  options : MatchOptions := {}
  /-- How text is divided into tokens. -/
  tokenizer : Tokenizer := .words

namespace Parser

/-- The tokens of a text. -/
def tokenize (parser : Parser) (text : String) : List Token := parser.tokenizer.tokenize text

/-- The parses of tokens, the preferred one first. -/
def parseAllTokens (parser : Parser) (tokens : List Token) : List Outcome :=
  let trees := parser.grammar.trees parser.options tokens
  let allowed := match parser.options.maxParses with
    | some count => trees.take count
    | none => trees
  allowed.map (Outcome.ofTree parser.grammar)

/-- The parses of tokens, to be handed out one by one. -/
def parses (parser : Parser) (tokens : List Token) : Parses where
  grammar := parser.grammar
  tokens := tokens
  roots := parser.grammar.roots parser.options tokens
  remaining := parser.options.maxParses

/-- The parses of a text, the preferred one first. -/
def parseAll (parser : Parser) (text : String) : List Outcome :=
  parser.parseAllTokens (parser.tokenize text)

/-- The preferred parse of tokens. -/
def parseTokens (parser : Parser) (tokens : List Token) : Option Outcome :=
  (parser.parseAllTokens tokens).head?

/-- The preferred parse of a text. -/
def parse (parser : Parser) (text : String) : Option Outcome :=
  parser.parseTokens (parser.tokenize text)

/-- The preferred parse of a text, or the diagnostic that there is none. -/
def tryParse (parser : Parser) (text : String) : Except Diagnostic Outcome :=
  let tokens := parser.tokenize text
  match parser.parseTokens tokens with
  | some outcome => .ok outcome
  | none => .error (.noParse parser.grammar.goalName text tokens.length)

end Parser

end Utterance

import Utterance.Action
import Utterance.Config
import Utterance.Config.JsonText
import Utterance.Config.Schema
import Utterance.Config.YamlText
import Utterance.Diagnostic
import Utterance.Diagnostic.Report
import Utterance.Diagnostic.Window
import Utterance.Expr
import Utterance.Grammar
import Utterance.Grammar.Declaration
import Utterance.Grammar.Describe
import Utterance.Grammar.Lowering
import Utterance.Json
import Utterance.LiteralSet
import Utterance.Naming
import Utterance.Number
import Utterance.Number.Shortest
import Utterance.Options
import Utterance.Parser
import Utterance.Pattern
import Utterance.Pattern.Ast
import Utterance.Pattern.Brackets
import Utterance.Pattern.Class
import Utterance.Pattern.Cursor
import Utterance.Pattern.Escape
import Utterance.Pattern.Fault
import Utterance.Pattern.Meaning
import Utterance.Pattern.Reader
import Utterance.Pattern.Regex
import Utterance.Proofs.Accounts
import Utterance.Proofs.Admission
import Utterance.Proofs.Agreement
import Utterance.Proofs.Answers
import Utterance.Proofs.Building
import Utterance.Proofs.Capacity
import Utterance.Proofs.Congruence
import Utterance.Proofs.Correspondence
import Utterance.Proofs.Counterpart
import Utterance.Proofs.Cycles
import Utterance.Proofs.DefinitionOrder
import Utterance.Proofs.Derivation
import Utterance.Proofs.Direct
import Utterance.Proofs.EmptyMatches
import Utterance.Proofs.Enumeration
import Utterance.Proofs.Exhaustive
import Utterance.Proofs.Extents
import Utterance.Proofs.Failures
import Utterance.Proofs.Filler
import Utterance.Proofs.Front
import Utterance.Proofs.Grounded
import Utterance.Proofs.Leading
import Utterance.Proofs.Leaf
import Utterance.Proofs.Ledger
import Utterance.Proofs.Levels
import Utterance.Proofs.ListView
import Utterance.Proofs.LiteralWindows
import Utterance.Proofs.Literals
import Utterance.Proofs.Match
import Utterance.Proofs.Meaning
import Utterance.Proofs.Memory
import Utterance.Proofs.Merging
import Utterance.Proofs.Mirror
import Utterance.Proofs.NamedView
import Utterance.Proofs.Numerals
import Utterance.Proofs.Offer
import Utterance.Proofs.Paths
import Utterance.Proofs.Preference
import Utterance.Proofs.Prospect
import Utterance.Proofs.Reach
import Utterance.Proofs.Recall
import Utterance.Proofs.Relaxation
import Utterance.Proofs.Renumbering
import Utterance.Proofs.Representation
import Utterance.Proofs.Requests
import Utterance.Proofs.Roots
import Utterance.Proofs.Rounds
import Utterance.Proofs.Scopes
import Utterance.Proofs.Sharing
import Utterance.Proofs.Shortage
import Utterance.Proofs.Slide
import Utterance.Proofs.Solved
import Utterance.Proofs.Sound
import Utterance.Proofs.Spans
import Utterance.Proofs.Transparency
import Utterance.Proofs.Trees
import Utterance.Proofs.UndefinedNames
import Utterance.Proofs.Walk
import Utterance.Proofs.WordOrder
import Utterance.Result
import Utterance.Result.Calls
import Utterance.Search.Candidate
import Utterance.Search.Memo
import Utterance.Search.Plain
import Utterance.Search.Step
import Utterance.Text.Blank
import Utterance.Text.Casing
import Utterance.Text.CharSet
import Utterance.Text.Letter
import Utterance.Text.LineBreak
import Utterance.Text.Position
import Utterance.Text.Quoted
import Utterance.Text.Split
import Utterance.Text.Terminal
import Utterance.Text.Width
import Utterance.Text.Words
import Utterance.Text.Wrap
import Utterance.Token
import Utterance.Tree
import Utterance.Unicode.Age
import Utterance.Unicode.CaseOrbit
import Utterance.Unicode.CaseRun
import Utterance.Unicode.Category
import Utterance.Unicode.Current
import Utterance.Unicode.GraphemeBreak
import Utterance.Unicode.LineBreak
import Utterance.Unicode.Lookup
import Utterance.Unicode.Named
import Utterance.Unicode.Property
import Utterance.Unicode.Script
import Utterance.Unicode.SentenceBreak
import Utterance.Unicode.WordBreak
import Utterance.Value
import Utterance.Yaml.Chars
import Utterance.Yaml.Event
import Utterance.Yaml.Lexer
import Utterance.Yaml.Lexer.Scalars
import Utterance.Yaml.Lexer.Tags
import Utterance.Yaml.Lexer.Tokens
import Utterance.Yaml.Result
import Utterance.Yaml.Scalar
import Utterance.Yaml.Token
import Utterance.Yaml.Writer
import Utterance.Proofs.Canonical

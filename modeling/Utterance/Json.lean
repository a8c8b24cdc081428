import Utterance.Value
import Utterance.Options

/-!
# JSON documents

Results and options are exchanged as JSON. A document is a tree of `Json`; a number is kept as it is
written. `Json.render` writes a document on one line: quotes, backslashes and control characters of
text are escaped, and nothing else is.
-/
namespace Utterance

/-- A JSON document. -/
inductive Json where
  | null
  | bool (value : Bool)
  /-- A number as it is written. -/
  | number (digits : String)
  | text (value : String)
  | list (items : List Json)
  | object (entries : List (String × Json))
deriving Repr, Inhabited

namespace Json

/-- A count as a number. -/
def ofNat (count : Nat) : Json := .number (toString count)

/-- A value that may be missing. -/
def ofOption {α : Type} (encode : α → Json) : Option α → Json
  | none => .null
  | some value => encode value

/-- A digit of base sixteen. -/
def hexDigit (value : Nat) : Char :=
  if value < 10 then Char.ofNat ('0'.toNat + value) else Char.ofNat ('a'.toNat + (value - 10))

/-- A character inside a quoted text. -/
def escape (char : Char) : List Char :=
  if char = '"' then ['\\', '"']
  else if char = '\\' then ['\\', '\\']
  else if char = '\n' then ['\\', 'n']
  else if char = '\r' then ['\\', 'r']
  else if char = '\t' then ['\\', 't']
  else if char.toNat < 32 then
    ['\\', 'u', '0', '0', hexDigit (char.toNat / 16), hexDigit (char.toNat % 16)]
  else [char]

/-- A text in quotes. -/
def quote (text : String) : String := "\"" ++ String.ofList (text.toList.flatMap escape) ++ "\""

mutual

/-- The text of a document. -/
def render : Json → String
  | .null => "null"
  | .bool value => if value then "true" else "false"
  | .number digits => digits
  | .text value => quote value
  | .list items => "[" ++ ",".intercalate (renderItems items) ++ "]"
  | .object entries => "\x7b" ++ ",".intercalate (renderEntries entries) ++ "\x7d"

/-- The texts of documents. -/
def renderItems : List Json → List String
  | [] => []
  | item :: rest => render item :: renderItems rest

/-- The texts of entries of an object. -/
def renderEntries : List (String × Json) → List String
  | [] => []
  | (key, value) :: rest => (quote key ++ ":" ++ render value) :: renderEntries rest

end

end Json

/-- A number as a document; what is not finite has no number there. -/
def Number.toJson : Number → Json
  | .finite negative mantissa exponent => .number (documentText negative mantissa exponent)
  | _ => .null

mutual

/-- A value as a document. -/
def Value.toJson : Value → Json
  | .nil => .null
  | .text content => .text content
  | .number content => content.toJson
  | .bool content => .bool content
  | .list items => .list (Value.toJsonAll items)
  | .map items named =>
    .object [("items", .list (Value.toJsonAll items)), ("named", .object (Value.toJsonNamed named))]

/-- Values as documents. -/
def Value.toJsonAll : List Value → List Json
  | [] => []
  | value :: rest => value.toJson :: Value.toJsonAll rest

/-- Named values as entries of an object. -/
def Value.toJsonNamed : List (String × Value) → List (String × Json)
  | [] => []
  | (name, value) :: rest => (name, value.toJson) :: Value.toJsonNamed rest

end

/-- A failure as a document. -/
def Failure.toJson (failure : Failure) : Json :=
  .object [("key", .text failure.key), ("message", .text failure.message),
    ("raw", failure.raw.toJson)]

/-- A result as a document, with its failures when there are any. -/
def ParseResult.toJson (result : ParseResult) : Json :=
  let failures := if result.failures.isEmpty then []
    else [("failures", Json.list (result.failures.map Failure.toJson))]
  .object ([("items", .list (Value.toJsonAll result.items)),
    ("named", .object (Value.toJsonNamed result.named))] ++ failures)

/-- A case policy as a document. -/
def CasePolicy.toJson : CasePolicy → Json
  | .insensitive => .text "insensitive"
  | .sensitive => .text "sensitive"

/-- A skip budget as a document. -/
def SkipBudget.toJson : SkipBudget → Json
  | .unlimited => .text "unlimited"
  | .limited count => .object [("limited", .ofNat count)]

/-- An order of choices as a document. -/
def ChoiceOrder.toJson : ChoiceOrder → Json
  | .declared => .text "declared"
  | .longest => .text "longest"

/-- An order of parses as a document. -/
def ParseMode.toJson : ParseMode → Json
  | .first => .text "first"
  | .widest => .text "widest"

/-- Options of a parser as a document. -/
def MatchOptions.toJson (options : MatchOptions) : Json :=
  .object [("skip_budget", options.skipBudget.toJson), ("choice_order", options.choiceOrder.toJson),
    ("mode", options.mode.toJson), ("max_parses", .ofOption .ofNat options.maxParses),
    ("max_memo_entries", .ofOption .ofNat options.maxMemoEntries)]

end Utterance

import Utterance.Value
import Utterance.Yaml.Writer

/-!
# Results as YAML

A result is written with its list view, its named view and, when there are any, its failures.
-/
namespace Utterance

mutual

/-- A value as a node of a document. -/
def Value.toYaml : Value → Yaml.Node
  | .nil => .plain "null"
  | .text content => .text content
  | .number content => .ofNumber content
  | .bool content => .plain (if content then "true" else "false")
  | .list items => .sequence (Value.toYamlAll items)
  | .map items named =>
    .mapping [("items", .sequence (Value.toYamlAll items)),
      ("named", .mapping (Value.toYamlNamed named))]

/-- Values as nodes. -/
def Value.toYamlAll : List Value → List Yaml.Node
  | [] => []
  | value :: rest => value.toYaml :: Value.toYamlAll rest

/-- Named values as entries. -/
def Value.toYamlNamed : List (String × Value) → List (String × Yaml.Node)
  | [] => []
  | (name, value) :: rest => (name, value.toYaml) :: Value.toYamlNamed rest

end

/-- A failure as a node of a document. -/
def Failure.toYaml (failure : Failure) : Yaml.Node :=
  .mapping [("key", .text failure.key), ("message", .text failure.message),
    ("raw", failure.raw.toYaml)]

/-- The text of a result as a document. -/
def ParseResult.toYaml (result : ParseResult) : String :=
  let failures := if result.failures.isEmpty then []
    else [("failures", Yaml.Node.sequence (result.failures.map Failure.toYaml))]
  Yaml.writeDocument ([("items", .sequence (Value.toYamlAll result.items)),
    ("named", .mapping (Value.toYamlNamed result.named))] ++ failures)

end Utterance

import Utterance.Grammar
import Utterance.Text.Casing

/-!
# Common actions

Actions that many grammars need: reading numbers, changing text, testing it, and reaching into maps.
-/
namespace Utterance.Action

/-- Leave the value as it is. -/
def identity : Action := .ok

/-- Read a number from text. -/
def number : Action
  | .text content =>
    match Number.ofText? content with
    | some value => .ok (.number value)
    | none => .error "not a number"
  | _ => .error "not a number"

/-- The words of the value in upper case. -/
def upper : Action := fun value => .ok (.text (Text.uppercase value.words))

/-- The words of the value after a given text. -/
def prepend (text : String) : Action := fun value => .ok (.text (text ++ value.words))

/-- A given text in place of the value. -/
def constant (text : String) : Action := fun _ => .ok (.text text)

/-- Whether the value is a given text. -/
def equals (text : String) : Action := fun value => .ok (.bool (value.asText == some text))

/-- No value. -/
def nil : Action := fun _ => .ok .nil

/-- A list of the value alone. -/
def list : Action := fun value => .ok (.list [value])

/-- The list view of a map. -/
def items : Action
  | .map items _ => .ok (.list items)
  | value => .error (value.typeName ++ " is not a map")

/-- The value that a map binds to a name. -/
def get (name : String) : Action := fun value =>
  match value.get? name with
  | some found => .ok found
  | none => .error "no such name"

/-- The name of the value's type. -/
def typeName : Action := fun value => .ok (.text value.typeName)

/-- Fail with a message. -/
def fail (message : String) : Action := fun _ => .error message

end Utterance.Action

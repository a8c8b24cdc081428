import Utterance.Number.Shortest
import Utterance.Options
import Utterance.Text.Split

/-!
# Values

What a parse makes of the input: text, numbers, truth values, lists and maps. A map has a list view,
its values in match order, and a named view, its values by name in order of the names. Values are
reached by name, by index, or by a path that mixes both.
-/
namespace Utterance

/-- A value of a parse. -/
inductive Value where
  | nil
  | text (text : String)
  | number (number : Number)
  | bool (bool : Bool)
  | list (items : List Value)
  | map (items : List Value) (named : List (String × Value))
deriving Repr, Inhabited

namespace Value

/-- The name of a value's type. -/
def typeName : Value → String
  | .nil => "Nil"
  | .text _ => "Text"
  | .number _ => "Number"
  | .bool _ => "Bool"
  | .list _ => "List"
  | .map _ _ => "Map"

/-- Whether there is no value. -/
def isNil : Value → Bool
  | .nil => true
  | _ => false

/-- The text of a text value. -/
def asText : Value → Option String
  | .text content => some content
  | _ => none

/-- The number of a number value. -/
def asNumber : Value → Option Number
  | .number content => some content
  | _ => none

/-- The truth value of a truth value. -/
def asBool : Value → Option Bool
  | .bool content => some content
  | _ => none

/-- The items of a list. -/
def asList : Value → Option (List Value)
  | .list items => some items
  | _ => none

/-- The value that a map binds to a name. -/
def get? (value : Value) (name : String) : Option Value :=
  match value with
  | .map _ named => named.lookup name
  | _ => none

/-- The item of a list, or of the list view of a map, at an index. -/
def at? (value : Value) (index : Nat) : Option Value :=
  match value with
  | .list items => items[index]?
  | .map items _ => items[index]?
  | _ => none

/-- Bind a name among names in order; a value that it had is replaced. -/
def bindName (name : String) (value : Value) : List (String × Value) → List (String × Value)
  | [] => [(name, value)]
  | (held, bound) :: rest =>
    if name = held then (name, value) :: rest
    else if name < held then (name, value) :: (held, bound) :: rest
    else (held, bound) :: bindName name value rest

/-- The map of some items and of names with values in any order. -/
def ofEntries (items : List Value) (entries : List (String × Value)) : Value :=
  .map items (entries.foldl (fun named entry => bindName entry.1 entry.2 named) [])

/-- Texts that are not empty, with a blank between any two. -/
def joinTexts (texts : List String) : String := " ".intercalate (texts.filter (· ≠ ""))

mutual

/-- The words of a value in match order, with blanks between them. -/
def words : Value → String
  | .nil => ""
  | .text content => content
  | .number content => content.text
  | .bool content => if content then "true" else "false"
  | .list items => joinTexts (wordsOfAll items)
  | .map items _ => joinTexts (wordsOfAll items)

/-- The words of each value. -/
def wordsOfAll : List Value → List String
  | [] => []
  | value :: rest => words value :: wordsOfAll rest

end

mutual

/-- Whether two values are equal; what is no number differs from itself. -/
def same : Value → Value → Bool
  | .nil, .nil => true
  | .text left, .text right => left == right
  | .number left, .number right => left.same right
  | .bool left, .bool right => left == right
  | .list left, .list right => sameAll left right
  | .map left leftNamed, .map right rightNamed =>
    sameAll left right && sameNamed leftNamed rightNamed
  | _, _ => false

/-- Whether two lists of values are equal item by item. -/
def sameAll : List Value → List Value → Bool
  | [], [] => true
  | left :: lefts, right :: rights => same left right && sameAll lefts rights
  | _, _ => false

/-- Whether two lists of names with values are equal entry by entry. -/
def sameNamed : List (String × Value) → List (String × Value) → Bool
  | [], [] => true
  | (name, left) :: lefts, (name', right) :: rights =>
    name == name' && same left right && sameNamed lefts rights
  | _, _ => false

end

/-- The index that a segment of a path writes: decimal digits, perhaps after a plus sign, up to the
greatest count. -/
def indexOfText? (text : String) : Option Nat :=
  let digits := match text.toList with
    | '+' :: rest => rest
    | chars => chars
  if digits.isEmpty || !digits.all Char.isDigit then none
  else
    let index := Number.decimalValue digits
    if index ≤ maxCount then some index else none

/-- The value that one segment of a path leads to. A list is indexed; a map is asked for the name
first and then, if the segment is an index, for the item. -/
def follow? (value : Value) (segment : String) : Option Value :=
  match value, indexOfText? segment with
  | .list items, some index => items[index]?
  | .map items named, some index => (named.lookup segment).orElse fun _ => items[index]?
  | .map _ named, none => named.lookup segment
  | _, _ => none

/-- The segments of a path. -/
def segments (path : String) : List String :=
  (Text.splitChars '.' path.toList).map String.ofList

end Value

/-- An action that failed, under the name of the element it belongs to. -/
structure Failure where
  /-- The name of the element. -/
  key : String
  /-- What the action said. -/
  message : String
  /-- The value the action was given, which stays in the result. -/
  raw : Value
deriving Repr, Inhabited

/-- The outcome of a parse by name and in order. -/
structure ParseResult where
  /-- Values in match order. -/
  items : List Value := []
  /-- Values by name, in order of the names. -/
  named : List (String × Value) := []
  /-- Actions that failed, in the order in which they ran. -/
  failures : List Failure := []
deriving Repr, Inhabited

namespace ParseResult

/-- The map of a value as a result. -/
def ofValue? : Value → Option ParseResult
  | .map items named => some { items, named }
  | _ => none

/-- The value bound to a name. -/
def get? (result : ParseResult) (name : String) : Option Value := result.named.lookup name

/-- Whether a name is bound. -/
def contains (result : ParseResult) (name : String) : Bool := (result.get? name).isSome

/-- The value at the end of a path: a bound name, then names and indices, with dots between. -/
def getPath? (result : ParseResult) (path : String) : Option Value :=
  match Value.segments path with
  | [] => none
  | first :: rest =>
    rest.foldl (fun value segment => value.bind (·.follow? segment)) (result.get? first)

/-- Bound names in order. -/
def keys (result : ParseResult) : List String := result.named.map (·.1)

/-- The first failure under a name. -/
def failure? (result : ParseResult) (key : String) : Option Failure :=
  result.failures.find? (·.key == key)

/-- The matched words with blanks between them. -/
def words (result : ParseResult) : String := (Value.list result.items).words

end ParseResult

end Utterance

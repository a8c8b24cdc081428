import Utterance.Config.Schema
import Utterance.Number.Shortest
import Utterance.Options
import Utterance.Text.Quoted
import Utterance.Yaml.Event
import Utterance.Yaml.Scalar

/-!
# Configuration documents in YAML

The events of a document are read against the schema in order, so what a document states against its
schema is reported before a fault further on. A complaint about a value names its field and the
place of the value; one about a key names the place of the key; any other names the place of the
record. A variant that carries a count is written with a tag.
-/
namespace Utterance.Config.YamlText

open Utterance.Yaml

/-- What a number is called in a complaint. -/
def floatText (value : Number) : String :=
  match value with
  | .finite _ _ _ =>
    let text := value.text
    if text.toList.contains '.' then text else text ++ ".0"
  | _ => value.text

/-- The least integer that is not wide. -/
def minInteger : Int := -9223372036854775808

/-- What an integer is called in a complaint; a wide one is named with its width. -/
def integerText (value : Int) : String :=
  "integer " ++ marked (toString value) ++
    if (maxCount : Int) < value then " as u128" else if value < minInteger then " as i128" else ""

/-- What a text is called in a complaint. -/
def stringText (text : String) : String := "string " ++ Text.quoted text

/-- What a plain scalar is called in a complaint. -/
def plainText (text : String) : String :=
  match Scalar.ofPlain text with
  | .null => "unit value"
  | .bool value => "boolean " ++ marked (if value then "true" else "false")
  | .integer value => integerText value
  | .float value => "floating point " ++ marked (floatText value)
  | .text value => stringText value

/-- A tag of the standard schema. -/
def standardTag (name : String) : String := "tag:yaml.org,2002:" ++ name

/-- Complain of a scalar where something else is expected. -/
def rejectScalar (text : String) (style : Style) (tag : Option TagText) (expected : String) :
    Complaint :=
  let tagged (reading : Option String) (kind : String) : Complaint :=
    match reading with
    | some found => .wrongType found expected
    | none => .wrongValue (stringText text) kind
  let name := tag.map (·.text)
  if name = some (standardTag "bool") then
    tagged ((bool? text).map fun value => "boolean " ++ marked (if value then "true" else "false"))
      "a boolean"
  else if name = some (standardTag "int") then
    tagged ((integer? text.toList).map integerText) "an integer"
  else if name = some (standardTag "float") then
    tagged ((float? text).map fun value => "floating point " ++ marked (floatText value)) "a float"
  else if name = some (standardTag "null") then
    tagged (if isNullName text then some "unit value" else none) "null"
  else if style = .plain ∧ name.all (·.toList.head? = some '!') then
    .wrongType (plainText text) expected
  else .wrongType (stringText text) expected

/-- Complain of an event where something else is expected. -/
def rejectEvent (event : Event) (expected : String) : Complaint :=
  match event with
  | .scalar text style tag => rejectScalar text style tag expected
  | .sequenceStart _ => .wrongType "sequence" expected
  | _ => .wrongType "map" expected

/-- What stops the reading: the words, with the field and the place if they are known, or the fault
at which the events end. -/
inductive Trouble where
  | unplaced (complaint : Complaint)
  | placed (complaint : Complaint) (field : Option String) (mark : Mark)
  | cut
deriving Repr, Inhabited

namespace Trouble

/-- Place a complaint that has no place. -/
def place (field : Option String) (mark : Mark) : Trouble → Trouble
  | .unplaced complaint => .placed complaint field mark
  | trouble => trouble

/-- The words, given the fault at which the events end. -/
def message (fault : Option Yaml.Fault) : Trouble → String
  | .unplaced complaint => complaint.message
  | .placed complaint field mark =>
    ((field.map (· ++ ": ")).getD "") ++ complaint.message ++ mark.suffix
  | .cut => (fault.map (·.message)).getD "EOF while parsing a value"

end Trouble

/-- Follow the uses of anchored nodes to a node that is written out. A target stands before its use,
so `fuel` is the number of events. -/
def follow (events : List PlacedEvent) : (fuel : Nat) → PlacedEvent → PlacedEvent
  | 0, event => event
  | fuel + 1, event =>
    match event.event with
    | .alias target => follow events fuel (events[target]?.getD event)
    | _ => event

/-- The count of a scalar. -/
def readCount (event : PlacedEvent) : Except Complaint Nat :=
  match event.event with
  | .scalar text style tag =>
    let readable := style = .plain || (style = .literal && tag.any (·.text = standardTag "int"))
    match if readable then count? text else none with
    | some count => .ok count
    | none => .error (rejectScalar text style tag countExpectation)
  | other => .error (rejectEvent other countExpectation)

/-- Whether an event stands for a missing count. -/
def readMissing (event : PlacedEvent) : Except Complaint Bool :=
  match event.event with
  | .scalar text .plain tag =>
    match tag with
    | none => .ok (text.isEmpty || isNullName text)
    | some tag =>
      if tag.text = standardTag "null" then
        if isNullName text then .ok true else .error (.wrongValue (stringText text) "null")
      else .ok false
  | _ => .ok false

/-- Check that what follows the tag of a variant without a count is nothing. -/
def readNothing (event : PlacedEvent) : Except Complaint Unit :=
  match event.event with
  | .scalar text style _ =>
    if style = .plain ∧ (text.isEmpty || isNullName text) then .ok ()
    else .error (.wrongValue (stringText text) "null")
  | other => .error (rejectEvent other "unit")

/-- The name that a legible tag of the document itself gives. -/
def variantTag? (tag : Option TagText) : Option String :=
  match tag.filter (·.legible) with
  | none => none
  | some tag =>
    match tag.text.toList with
    | ['!'] => some "!"
    | '!' :: name => some (String.ofList name)
    | _ => none

/-- The variant with a name. -/
def findVariant (variants : List Variant) (name : String) : Except Complaint Variant :=
  match variants.find? (·.name == name) with
  | some variant => .ok variant
  | none => .error (.unknownVariant name (variants.map (·.name)))

/-- The tag of a node. -/
def tagOf : Event → Option TagText
  | .scalar _ _ tag => tag
  | .sequenceStart tag => tag
  | .mappingStart tag => tag
  | _ => none

/-- Place the complaint of a step at a value. -/
def placedAt {α : Type} (field : String) (event : PlacedEvent) (step : Except Complaint α) :
    Except Trouble α :=
  step.mapError fun complaint => .placed complaint (some field) event.mark

/-- A variant given by a tag. -/
def readTagged (field : String) (variants : List Variant) (name : String) (event : PlacedEvent) :
    Except Trouble Setting := do
  let variant ← (findVariant variants name).mapError .unplaced
  if variant.counted then
    let count ← placedAt field event (readCount event)
    return .variant variant.name (some count)
  else
    placedAt field event (readNothing event)
    return .variant variant.name none

/-- A variant given by its name alone. -/
def readNamed (field : String) (variants : List Variant) (name : String) (event : PlacedEvent) :
    Except Trouble Setting := do
  let variant ← placedAt field event (findVariant variants name)
  if variant.counted then
    placedAt field event (.error (.wrongType "unit variant" "newtype variant"))
  else return .variant variant.name none

/-- The setting that an event states for a field. -/
def readSetting (field : Field) (event : PlacedEvent) : Except Trouble Setting :=
  match field.shape with
  | .count => do
    if ← (readMissing event).mapError .unplaced then return .count none
    else return .count (some (← placedAt field.name event (readCount event)))
  | .choice variants =>
    match variantTag? (tagOf event.event), event.event with
    | some name, _ => readTagged field.name variants name event
    | none, .scalar text _ _ => readNamed field.name variants text event
    | none, other =>
      placedAt field.name event (.error (rejectEvent other "a YAML tag starting with '!'"))

/-- The name that a key gives. -/
def readKey (event : PlacedEvent) : Except Trouble String :=
  match event.event with
  | .scalar text _ _ => .ok text
  | other => .error (.placed (rejectEvent other "field identifier") none event.mark)

/-- Read the entries of a record. A value that can be read is one event, so an entry is two. -/
def readEntries (schema : Schema) (all : List PlacedEvent) :
    List PlacedEvent → Settings → Except Trouble Settings
  | [], _ => .error .cut
  | [event], settings =>
    match event.event with
    | .mappingEnd => .ok settings
    | _ => do
      let _ ← checkKey schema settings (follow all all.length event)
      .error .cut
  | event :: value :: rest, settings =>
    match event.event with
    | .mappingEnd => .ok settings
    | _ => do
      let field ← checkKey schema settings (follow all all.length event)
      let setting ← readSetting field (follow all all.length value)
      readEntries schema all rest (settings ++ [(field.name, setting)])
where
  /-- The field of a key, which must be known and new. -/
  checkKey (schema : Schema) (settings : Settings) (event : PlacedEvent) :
      Except Trouble Field := do
    let name ← readKey event
    match schema.field? name with
    | none => .error (.placed (.unknownField name schema.fieldNames) none event.mark)
    | some field =>
      if settings.any (·.1 == name) then .error (.unplaced (.repeatedField name))
      else return field

/-- Read the record of a document; a document without content states nothing. -/
def readRecord (schema : Schema) (document : Document) : Except Trouble Settings :=
  match document.events with
  | [] => if document.fault.isSome then .error .cut else .ok []
  | event :: rest =>
    match event.event with
    | .mappingStart _ =>
      (readEntries schema document.events rest []).mapError (·.place none event.mark)
    | .scalar "" .plain _ => .ok []
    | other => .error (.placed (rejectEvent other schema.expectation) none event.mark)

/-- The settings of a document, or the words for what is wrong and where. -/
def read (schema : Schema) (content : String) : Except String Settings := do
  let document := Document.ofText content
  let settings ← (readRecord schema document).mapError (·.message document.fault)
  match document.fault with
  | some fault => .error fault.message
  | none =>
    if document.more then
      .error "deserializing from YAML containing more than one document is not supported"
    else return settings

end Utterance.Config.YamlText

/-!
# Schemas of configuration documents

A configuration document is a record of settings. A schema names the record and its fields and says
what each field may hold: one of several named variants, of which some carry a count, or a count
that may be missing. The readers of the document formats give the settings that a document states;
fields that it leaves out keep their defaults.
-/
namespace Utterance.Config

/-- A named alternative of a setting. -/
structure Variant where
  /-- The name. -/
  name : String
  /-- Whether the alternative carries a count. -/
  counted : Bool := false
deriving Repr, DecidableEq, Inhabited

/-- What a field may hold. -/
inductive Shape where
  /-- One of several variants. -/
  | choice (variants : List Variant)
  /-- A count, or nothing. -/
  | count
deriving Repr, DecidableEq, Inhabited

/-- A field of a record. -/
structure Field where
  /-- The name. -/
  name : String
  /-- What the field may hold. -/
  shape : Shape
deriving Repr, DecidableEq, Inhabited

/-- A record of settings. -/
structure Schema where
  /-- The name of the record. -/
  name : String
  /-- The fields in order. -/
  fields : List Field
deriving Repr, DecidableEq, Inhabited

/-- What a document states for a field. -/
inductive Setting where
  /-- A variant, with its count if it carries one. -/
  | variant (name : String) (count : Option Nat)
  /-- A count, or nothing. -/
  | count (value : Option Nat)
deriving Repr, DecidableEq, Inhabited

/-- The settings of a document by field. -/
abbrev Settings := List (String × Setting)

namespace Schema

/-- What a document has to be. -/
def expectation (schema : Schema) : String := "struct " ++ schema.name

/-- The names of the fields. -/
def fieldNames (schema : Schema) : List String := schema.fields.map (·.name)

/-- The field with a name. -/
def field? (schema : Schema) (name : String) : Option Field :=
  schema.fields.find? (·.name == name)

end Schema

/-- What a document states against its schema. -/
inductive Complaint where
  /-- A value of another type than expected. -/
  | wrongType (found expected : String)
  /-- A value of the expected type that cannot be used. -/
  | wrongValue (found expected : String)
  /-- A field that the record does not have. -/
  | unknownField (name : String) (known : List String)
  /-- A variant that the field does not have. -/
  | unknownVariant (name : String) (known : List String)
  /-- A field that is stated twice. -/
  | repeatedField (name : String)
deriving Repr, DecidableEq, Inhabited

/-- A name between marks. -/
def marked (name : String) : String := "`" ++ name ++ "`"

/-- A list of names to choose from. -/
def alternatives (names : List String) : String :=
  match names with
  | [] => "nothing"
  | [name] => marked name
  | [first, second] => marked first ++ " or " ++ marked second
  | names => "one of " ++ ", ".intercalate (names.map marked)

/-- The words for a complaint. -/
def Complaint.message : Complaint → String
  | .wrongType found expected => "invalid type: " ++ found ++ ", expected " ++ expected
  | .wrongValue found expected => "invalid value: " ++ found ++ ", expected " ++ expected
  | .unknownField name known =>
    "unknown field " ++ marked name ++ ", expected " ++ alternatives known
  | .unknownVariant name known =>
    "unknown variant " ++ marked name ++ ", expected " ++ alternatives known
  | .repeatedField name => "duplicate field " ++ marked name

/-- A count where one is expected. -/
def countExpectation : String := "usize"

end Utterance.Config

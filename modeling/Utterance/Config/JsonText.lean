import Utterance.Config.Schema
import Utterance.Number.Shortest
import Utterance.Options
import Utterance.Text.Position
import Utterance.Text.Quoted
import Utterance.Text.Split

/-!
# Configuration documents in JSON

The reader follows the schema while it reads, so the first fault of a document in reading order is
reported, whether the document is not JSON or states something against its schema. A fault is placed
at the byte where it was noticed; a complaint about a whole field is placed where the record around
it was left. A record is an object, or a list of its fields in order.
-/
namespace Utterance.Config.JsonText

/-- Ways in which a document is not JSON. -/
inductive Malformed where
  | endInValue
  | endInObject
  | endInList
  | endInText
  | colonExpected
  | commaOrBraceExpected
  | commaOrBracketExpected
  | valueExpected
  | wordExpected
  | textKeyExpected
  | trailingComma
  | trailingCharacters
  | badNumber
  | numberTooLarge
  | badEscape
  | loneSurrogate
  | cutSurrogate
  | controlCharacter
deriving Repr, DecidableEq, Inhabited

/-- The words for what is not JSON. -/
def Malformed.message : Malformed → String
  | .endInValue => "EOF while parsing a value"
  | .endInObject => "EOF while parsing an object"
  | .endInList => "EOF while parsing a list"
  | .endInText => "EOF while parsing a string"
  | .colonExpected => "expected `:`"
  | .commaOrBraceExpected => "expected `,` or `\x7d`"
  | .commaOrBracketExpected => "expected `,` or `]`"
  | .valueExpected => "expected value"
  | .wordExpected => "expected ident"
  | .textKeyExpected => "key must be a string"
  | .trailingComma => "trailing comma"
  | .trailingCharacters => "trailing characters"
  | .badNumber => "invalid number"
  | .numberTooLarge => "number out of range"
  | .badEscape => "invalid escape"
  | .loneSurrogate => "lone leading surrogate in hex escape"
  | .cutSurrogate => "unexpected end of hex escape"
  | .controlCharacter =>
    "control character (\\u0000-\\u001F) found while parsing a string"

/-- What stopped the reading, and the byte where it is placed if that is known. -/
structure Trouble where
  /-- The words. -/
  message : String
  /-- The byte. -/
  offset : Option Nat
deriving Repr, DecidableEq, Inhabited

/-- What is still to be read. -/
structure Cursor where
  /-- The characters. -/
  rest : List Char
  /-- The byte offset of the first of them. -/
  offset : Nat
deriving Repr, Inhabited

/-- A step of reading. -/
abbrev Reader := EStateM Trouble Cursor

/-- Stop at the cursor. -/
def fail {α : Type} (malformed : Malformed) : Reader α := do
  throw ⟨malformed.message, some (← get).offset⟩

/-- Stop at the byte after the cursor, which is the one looked at. -/
def failAhead {α : Type} (malformed : Malformed) : Reader α := do
  let cursor ← get
  throw ⟨malformed.message, some (if cursor.rest.isEmpty then cursor.offset else cursor.offset + 1)⟩

/-- Stop with a complaint at the cursor. -/
def complain {α : Type} (complaint : Complaint) : Reader α := do
  throw ⟨complaint.message, some (← get).offset⟩

/-- Stop with a complaint that the record around it places. -/
def complainLater {α : Type} (complaint : Complaint) : Reader α :=
  throw ⟨complaint.message, none⟩

/-- The next character. -/
def peek : Reader (Option Char) := do return (← get).rest.head?

/-- Take the next character. -/
def next : Reader (Option Char) := do
  match ← get with
  | ⟨char :: rest, offset⟩ =>
    set (⟨rest, offset + char.utf8Size⟩ : Cursor)
    return some char
  | ⟨[], _⟩ => return none

/-- Pass over the next character. -/
def advance : Reader Unit := do let _ ← next

/-- Take characters while a test holds. -/
def takeWhile (test : Char → Bool) : Reader (List Char) :=
  modifyGet fun cursor =>
    let taken := cursor.rest.takeWhile test
    (taken, ⟨cursor.rest.dropWhile test, cursor.offset + (String.ofList taken).utf8ByteSize⟩)

/-- Whether a character is a blank between values. -/
def isBlank (char : Char) : Bool := char = ' ' || char = '\n' || char = '\t' || char = '\r'

/-- Pass over blanks and look at the character after them. -/
def peekValue : Reader (Option Char) := do
  let _ ← takeWhile isBlank
  peek

/-- The number of bytes left. -/
def bytesLeft (cursor : Cursor) : Nat := (String.ofList cursor.rest).utf8ByteSize

/-- Take the four hexadecimal digits of an escape. -/
def readHex : Reader Nat := do
  let cursor ← get
  let left := bytesLeft cursor
  if left < 4 then
    set (⟨[], cursor.offset + left⟩ : Cursor)
    fail .endInText
  else
    set (⟨cursor.rest.drop 4, cursor.offset + 4⟩ : Cursor)
    match (cursor.rest.take 4).mapM Text.hexDigit? with
    | some digits => return digits.foldl (fun total digit => 16 * total + digit) 0
    | none => fail .badEscape

/-- Pass over the character that has to come next inside an escape. -/
def expectInEscape (expected : Char) : Reader Unit := do
  match ← peek with
  | none => fail .endInText
  | some char =>
    advance
    if char = expected then pure () else fail .cutSurrogate

/-- Take the character that an escape by code point stands for, perhaps by two surrogates. -/
def readCodePoint : Reader Char := do
  let first ← readHex
  if 0xDC00 ≤ first ∧ first ≤ 0xDFFF then fail .loneSurrogate
  else if first < 0xD800 ∨ 0xDBFF < first then return Char.ofNat first
  else
    expectInEscape '\\'
    expectInEscape 'u'
    let second ← readHex
    if second < 0xDC00 ∨ 0xDFFF < second then fail .loneSurrogate
    else return Char.ofNat ((first - 0xD800) * 0x400 + (second - 0xDC00) + 0x10000)

/-- Take the character that an escape stands for. -/
def readEscape : Reader Char := do
  match ← next with
  | none => fail .endInText
  | some 'u' => readCodePoint
  | some 'b' => return Char.ofNat 8
  | some 'f' => return Char.ofNat 12
  | some 'n' => return '\n'
  | some 'r' => return '\r'
  | some 't' => return '\t'
  | some char =>
    if char = '"' || char = '\\' || char = '/' then return char else fail .badEscape

/-- Take the text up to the closing quote. Each step takes a character, so `fuel` is the number of
characters left. -/
def readTextGo : (fuel : Nat) → (read : List Char) → Reader String
  | 0, _ => fail .endInText
  | fuel + 1, read => do
    match ← next with
    | none => fail .endInText
    | some '"' => return String.ofList read.reverse
    | some '\\' =>
      let char ← readEscape
      readTextGo fuel (char :: read)
    | some char =>
      if char.toNat < 32 then fail .controlCharacter else readTextGo fuel (char :: read)

/-- Take a text that starts with a quote. -/
def readText : Reader String := do
  advance
  readTextGo ((← get).rest.length + 1) []

/-- A number of a document. -/
inductive Numeral where
  | natural (value : Nat)
  | negative (value : Nat)
  | float (value : Number)
deriving Repr, Inhabited

/-- The greatest digits of a number that are kept. -/
def maxSignificand : Nat := maxCount

/-- Append digits to a number until it would grow too large, and count the digits appended. -/
def appendDigits (significand : Nat) (count : Nat) : List Char → Nat × Nat
  | [] => (significand, count)
  | digit :: rest =>
    let longer := 10 * significand + (digit.toNat - '0'.toNat)
    if maxSignificand < longer then (significand, count) else appendDigits longer (count + 1) rest

/-- The product of a finite number and a power of ten, where the power is rounded first. -/
def scaleUp : Number → Nat → Number
  | .finite negative 0 exponent, _ => .finite negative 0 exponent
  | .finite negative mantissa exponent, power =>
    match Number.ofDecimal false 1 power with
    | .finite _ mantissa' exponent' =>
      let (above, below) := Number.scale (mantissa * mantissa') 1 (-(exponent + exponent'))
      Number.ofQuotient negative above below
    | other => other
  | other, _ => other

/-- The quotient of a finite number and a power of ten, where the power is rounded first. -/
def scaleDown : Number → Nat → Number
  | .finite negative 0 exponent, _ => .finite negative 0 exponent
  | .finite negative mantissa exponent, power =>
    match Number.ofDecimal false 1 power with
    | .finite _ mantissa' exponent' =>
      let (above, below) := Number.scale mantissa mantissa' (exponent' - exponent)
      Number.ofQuotient negative above below
    | other => other
  | other, _ => other

/-- The greatest power of ten that is a number. -/
def maxPower : Nat := 308

/-- A number divided by a power of ten in steps of the greatest power. After three steps any number
is zero. -/
def scaleDownBy : (fuel : Nat) → Number → (power : Nat) → Number
  | 0, value, _ => value
  | fuel + 1, value, power =>
    if power ≤ maxPower then scaleDown value power
    else scaleDownBy fuel (scaleDown value maxPower) (power - maxPower)

/-- The number of some digits and a power of ten. -/
def assemble (negative : Bool) (significand : Nat) (power : Int) : Reader Numeral := do
  let value := Number.ofDecimal negative significand 0
  if power < 0 then return .float (scaleDownBy 4 value (-power).toNat)
  else if significand = 0 then return .float value
  else if (maxPower : Int) < power then fail .numberTooLarge
  else
    match scaleUp value power.toNat with
    | .infinite _ => fail .numberTooLarge
    | scaled => return .float scaled

/-- The greatest exponent that is kept. -/
def maxWrittenExponent : Nat := 2147483647

/-- Take the digits of an exponent. The answer is `none` once they grow too large. -/
def readExponentDigits : (fuel : Nat) → (value : Nat) → Reader (Option Nat)
  | 0, value => return some value
  | fuel + 1, value => do
    match ← peek with
    | some digit =>
      if digit.isDigit then
        advance
        let longer := 10 * value + (digit.toNat - '0'.toNat)
        if maxWrittenExponent < longer then return none else readExponentDigits fuel longer
      else return some value
    | none => return some value

/-- Take an exponent after its mark, and assemble the number. -/
def readExponent (negative : Bool) (significand : Nat) (power : Int) : Reader Numeral := do
  advance
  let sign ← peek
  if sign = some '+' || sign = some '-' then advance
  match ← next with
  | none => fail .endInValue
  | some digit =>
    if !digit.isDigit then fail .badNumber
    else
      match ← readExponentDigits (← get).rest.length (digit.toNat - '0'.toNat) with
      | some exponent =>
        assemble negative significand
          (if sign = some '-' then power - exponent else power + exponent)
      | none =>
        if significand ≠ 0 ∧ sign ≠ some '-' then fail .numberTooLarge
        else
          let _ ← takeWhile Char.isDigit
          return .float (Number.ofDecimal negative 0 0)

/-- Assemble a number, or go on with its exponent. -/
def readAfterDigits (negative : Bool) (significand : Nat) (power : Int) : Reader Numeral := do
  match ← peek with
  | some 'e' | some 'E' => readExponent negative significand power
  | _ => assemble negative significand power

/-- Take the digits after a point. -/
def readFraction (negative : Bool) (significand : Nat) (power : Int) : Reader Numeral := do
  advance
  let digits ← takeWhile Char.isDigit
  if digits.isEmpty then
    if (← peek).isSome then failAhead .badNumber else failAhead .endInValue
  else
    let (significand, count) := appendDigits significand 0 digits
    readAfterDigits negative significand (power - count)

/-- Go on after the digits before the point; `dropped` of them are not in the significand. -/
def readAfterWhole (negative : Bool) (significand dropped : Nat) : Reader Numeral := do
  match ← peek with
  | some '.' => readFraction negative significand dropped
  | some 'e' | some 'E' => readExponent negative significand dropped
  | _ =>
    if 0 < dropped then assemble negative significand dropped
    else if !negative then return .natural significand
    else if significand = 0 ∨ 9223372036854775808 < significand then
      return .float (Number.ofDecimal true significand 0)
    else return .negative significand

/-- Take a number from its first digit on. -/
def readNumber (negative : Bool) : Reader Numeral := do
  match ← next with
  | none => fail .endInValue
  | some '0' =>
    if (← peek).any Char.isDigit then failAhead .badNumber else readAfterWhole negative 0 0
  | some first =>
    if !first.isDigit then fail .badNumber
    else
      let digits ← takeWhile Char.isDigit
      let (significand, count) := appendDigits (first.toNat - '0'.toNat) 0 digits
      readAfterWhole negative significand (digits.length - count)

/-- A power of ten with its sign and two digits at least. -/
def powerText (power : Int) : String :=
  let digits := toString power.natAbs
  (if power < 0 then "e-" else "e+") ++ (if digits.length < 2 then "0" else "") ++ digits

/-- The text of a number in a complaint. -/
def floatText : Number → String
  | .nan => "NaN"
  | .infinite negative => if negative then "-inf" else "inf"
  | .finite negative 0 _ => if negative then "-0.0" else "0.0"
  | .finite negative mantissa exponent =>
    let decimal := Number.shortest mantissa exponent
    let digits := Number.digitChars decimal.digits
    let point : Int := digits.length + decimal.power
    (if negative then "-" else "") ++
      (if -5 < point ∧ point ≤ 16 then decimal.positional ".0"
      else
        String.ofList (digits.take 1) ++
          (if digits.length = 1 then "" else "." ++ String.ofList (digits.drop 1)) ++
          powerText (point - 1))

/-- What a number is called in a complaint. -/
def Numeral.found : Numeral → String
  | .natural value => "integer " ++ marked (toString value)
  | .negative value => "integer " ++ marked ("-" ++ toString value)
  | .float value => "floating point " ++ marked (floatText value)

/-- Pass over the rest of a word. -/
def readWord : List Char → Reader Unit
  | [] => pure ()
  | expected :: rest => do
    match ← next with
    | none => fail .endInValue
    | some char => if char = expected then readWord rest else fail .wordExpected

/-- Complain of the value at the cursor, which is not what is expected. -/
def rejectValue {α : Type} (expected : String) : Reader α := do
  match ← peek with
  | some 'n' =>
    advance
    readWord "ull".toList
    complain (.wrongType "null" expected)
  | some 't' =>
    advance
    readWord "rue".toList
    complain (.wrongType "boolean `true`" expected)
  | some 'f' =>
    advance
    readWord "alse".toList
    complain (.wrongType "boolean `false`" expected)
  | some '"' =>
    let text ← readText
    complain (.wrongType ("string " ++ Text.quoted text) expected)
  | some '[' => complain (.wrongType "sequence" expected)
  | some '\x7b' => complain (.wrongType "map" expected)
  | some '-' =>
    advance
    let numeral ← readNumber true
    complain (.wrongType numeral.found expected)
  | some char =>
    if char.isDigit then
      let numeral ← readNumber false
      complain (.wrongType numeral.found expected)
    else failAhead .valueExpected
  | none => failAhead .valueExpected

/-- A count from a number. -/
def countOf : Numeral → Reader Nat
  | .natural value => return value
  | .negative value => complain (.wrongValue (Numeral.negative value).found countExpectation)
  | .float value => complain (.wrongType (Numeral.float value).found countExpectation)

/-- Take a count. -/
def readCount : Reader Nat := do
  match ← peekValue with
  | none => failAhead .endInValue
  | some '-' =>
    advance
    countOf (← readNumber true)
  | some char => if char.isDigit then countOf (← readNumber false) else rejectValue countExpectation

/-- Take nothing, written as a word. -/
def readNothing : Reader Unit := do
  match ← peekValue with
  | none => failAhead .endInValue
  | some 'n' =>
    advance
    readWord "ull".toList
  | some _ => rejectValue "unit"

/-- Take the name of a variant. -/
def readVariant (variants : List Variant) : Reader Variant := do
  match ← peekValue with
  | none => failAhead .endInValue
  | some '"' =>
    let name ← readText
    match variants.find? (·.name == name) with
    | some variant => return variant
    | none => complain (.unknownVariant name (variants.map (·.name)))
  | some _ => rejectValue "variant identifier"

/-- Pass over the colon after a key. -/
def readColon : Reader Unit := do
  match ← peekValue with
  | some ':' => advance
  | some _ => failAhead .colonExpected
  | none => failAhead .endInObject

/-- Take a variant: its name, or an object of its name and what it carries. -/
def readChoice (variants : List Variant) : Reader Setting := do
  match ← peekValue with
  | some '\x7b' =>
    advance
    let variant ← readVariant variants
    readColon
    let setting ← if variant.counted then
        (fun count => Setting.variant variant.name (some count)) <$> readCount
      else (fun _ => Setting.variant variant.name none) <$> readNothing
    match ← peekValue with
    | some '\x7d' =>
      advance
      return setting
    | some _ => fail .valueExpected
    | none => fail .endInObject
  | some '"' =>
    let variant ← readVariant variants
    if variant.counted then complainLater (.wrongType "unit variant" "newtype variant")
    else return .variant variant.name none
  | some _ => failAhead .valueExpected
  | none => failAhead .endInValue

/-- Take the setting of a field. -/
def readSetting : Shape → Reader Setting
  | .choice variants => readChoice variants
  | .count => do
    if (← peekValue) = some 'n' then
      advance
      readWord "ull".toList
      return .count none
    else return .count (some (← readCount))

/-- Whether an object goes on with another key. -/
def hasKey (first : Bool) : Reader Bool := do
  match ← peekValue with
  | some '\x7d' => return false
  | some ',' =>
    if first then failAhead .textKeyExpected
    else
      advance
      match ← peekValue with
      | some '"' => return true
      | some '\x7d' => failAhead .trailingComma
      | some _ => failAhead .textKeyExpected
      | none => failAhead .endInValue
  | some '"' => if first then return true else failAhead .commaOrBraceExpected
  | some _ => if first then failAhead .textKeyExpected else failAhead .commaOrBraceExpected
  | none => failAhead .endInObject

/-- Take the entries of an object. Each takes some characters, which bounds their number. -/
def readEntries (schema : Schema) : (fuel : Nat) → Settings → Reader Settings
  | 0, settings => return settings
  | fuel + 1, settings => do
    if ← hasKey settings.isEmpty then
      let name ← readText
      match schema.field? name with
      | none => complainLater (.unknownField name schema.fieldNames)
      | some field =>
        if settings.any (·.1 == name) then complainLater (.repeatedField name)
        else
          readColon
          let setting ← readSetting field.shape
          readEntries schema fuel (settings ++ [(name, setting)])
    else return settings

/-- Whether a list goes on with another item. -/
def hasItem (first : Bool) : Reader Bool := do
  match ← peekValue with
  | some ']' => return false
  | some ',' =>
    if first then return true
    else
      advance
      match ← peekValue with
      | some ']' => failAhead .trailingComma
      | some _ => return true
      | none => failAhead .endInValue
  | some _ => if first then return true else failAhead .commaOrBracketExpected
  | none => failAhead .endInList

/-- Take the settings of fields in order, as long as there are items. -/
def readItems (first : Bool) : List Field → Reader Settings
  | [] => return []
  | field :: rest => do
    if ← hasItem first then
      let setting ← readSetting field.shape
      return (field.name, setting) :: (← readItems false rest)
    else return []

/-- Leave an object. -/
def closeObject : Reader Unit := do
  match ← peekValue with
  | some '\x7d' => advance
  | some ',' => failAhead .trailingComma
  | some _ => failAhead .trailingCharacters
  | none => failAhead .endInObject

/-- Leave a list. -/
def closeList : Reader Unit := do
  match ← peekValue with
  | some ']' => advance
  | some ',' =>
    advance
    if (← peekValue) = some ']' then failAhead .trailingComma else failAhead .trailingCharacters
  | some _ => failAhead .trailingCharacters
  | none => failAhead .endInList

/-- Read a record and leave it. The record is left also after a fault inside it, as far as possible,
and a fault without a place is placed there. -/
def enclosed {α : Type} (body : Reader α) (close : Reader Unit) : Reader α := fun cursor =>
  match body cursor with
  | .ok value cursor =>
    match close cursor with
    | .ok _ cursor => .ok value cursor
    | .error trouble cursor => .error trouble cursor
  | .error trouble cursor =>
    let left := match close cursor with
      | .ok _ cursor => cursor
      | .error _ cursor => cursor
    .error { trouble with offset := some (trouble.offset.getD left.offset) } left

/-- Read a record. -/
def readRecord (schema : Schema) : Reader Settings := do
  match ← peekValue with
  | none => failAhead .endInValue
  | some '[' =>
    advance
    enclosed (readItems true schema.fields) closeList
  | some '\x7b' =>
    advance
    enclosed (readEntries schema ((← get).rest.length + 1) []) closeObject
  | some _ => rejectValue schema.expectation

/-- Read a whole document. -/
def readDocument (schema : Schema) : Reader Settings := do
  let settings ← readRecord schema
  if (← peekValue).isSome then failAhead .trailingCharacters else return settings

/-- The settings of a document, or the words for what is wrong and where. -/
def read (schema : Schema) (content : String) : Except String Settings :=
  match readDocument schema ⟨content.toList, 0⟩ with
  | .ok settings _ => .ok settings
  | .error trouble _ =>
    let position := Text.positionOf content (trouble.offset.getD 0)
    .error (trouble.message ++ " at line " ++ toString (position.line + 1) ++ " column " ++
      toString position.column)

end Utterance.Config.JsonText

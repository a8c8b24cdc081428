import Utterance.Pattern.Cursor
import Utterance.Text.CharSet

/-!
# Escapes in a pattern

A backslash begins an escape: a character that has a meaning of its own taken literally, a character
given by its code point, a short class, a property of characters, or an assertion. Each reader takes
the cursor at the character after the backslash and returns the node and the cursor after it.
-/
namespace Utterance.Pattern

/-- Characters that have a meaning of their own in a pattern. -/
def isMeta (char : Char) : Bool := "\\.+*?()|[]\x7b\x7d^$#&-~".toList.contains char

/-- Whether a backslash before a character takes it literally: any ASCII character that is neither a
letter nor a digit nor an angle bracket. -/
def isEscapable (char : Char) : Bool :=
  isMeta char || (char.toNat < 128 && !char.isAlphanum && char ≠ '<' && char ≠ '>')

/-- Whether a character is a hexadecimal digit. -/
def isHexDigit (char : Char) : Bool := (Text.hexDigit? char).isSome

/-- The character with a code point, if there is one. -/
def charOfCode? (code : Nat) : Option Char :=
  if h : code.isValidChar then some (Char.ofNatAux code h) else none

/-- A character given by a fixed number of hexadecimal digits; `first` holds before the first. -/
def readHexDigits (blanks : Bool) : (count : Nat) → (first : Bool) → (digits : List Char) → Cursor →
    Except Problem (List Char × Cursor)
  | 0, _, digits, cursor => .ok (digits, cursor.next blanks)
  | count + 1, first, digits, cursor => do
    let current := if first then cursor else cursor.next blanks
    match current.char? with
    | none => faultAt .escapeUnexpectedEnd current.here
    | some char =>
      if isHexDigit char then readHexDigits blanks count false (digits ++ [char]) current
      else faultAt .escapeHexInvalidDigit current.charPart

/-- A character given by hexadecimal digits in braces; the cursor stands at the opening brace. -/
def readHexBraces (blanks : Bool) (start : Nat) (cursor : Cursor) :
    Except Problem (Literal × Cursor) := do
  let first := cursor.bump.offset
  let (digits, after) := (cursor.next blanks).takeWhile blanks isHexDigit
  match after.char? with
  | none => faultAt .escapeUnexpectedEnd (after.since cursor.offset)
  | some '\x7d' =>
    let finish := after.next blanks
    if digits.isEmpty then faultAt .escapeHexEmpty (finish.since cursor.offset)
    else
      match charOfCode? (Text.CharSet.hexValue digits) with
      | none => faultAt .escapeHexInvalid (after.since first)
      | some char => .ok (⟨char, false, finish.since start⟩, finish)
  | some _ => faultAt .escapeHexInvalidDigit after.charPart

/-- A character given by its code point; the cursor stands at the letter that says how. -/
def readHex (blanks : Bool) (start : Nat) (cursor : Cursor) :
    Except Problem (Literal × Cursor) := do
  let byteForm := cursor.sees 'x'
  let count := if byteForm then 2 else if cursor.sees 'u' then 4 else 8
  let current := cursor.next blanks
  if current.atEnd then faultAt .escapeUnexpectedEnd current.here
  else if current.sees '\x7b' then readHexBraces blanks start current
  else
    let (digits, after) ← readHexDigits blanks count true [] current
    match charOfCode? (Text.CharSet.hexValue digits) with
    | none => faultAt .escapeHexInvalid (after.since current.offset)
    | some char => .ok (⟨char, byteForm, after.since start⟩, after)

/-- The characters before and after the first place where some text stands. -/
def cutAt (text : List Char) : List Char → Option (List Char × List Char)
  | [] => none
  | char :: rest =>
    if text.isPrefixOf (char :: rest) then some ([], (char :: rest).drop text.length)
    else (cutAt text rest).map fun (before, after) => (char :: before, after)

/-- The property that the text in braces asks for. -/
def PropertyQuery.ofText (text : List Char) : PropertyQuery :=
  match cutAt ['!', '='] text with
  | some (name, value) => .valued (String.ofList name) (String.ofList value) true
  | none =>
    match (cutAt [':'] text).orElse fun _ => cutAt ['='] text with
    | some (name, value) => .valued (String.ofList name) (String.ofList value) false
    | none => .named (String.ofList text)

/-- A property of characters; the cursor stands at the letter that begins it. -/
def readProperty (blanks : Bool) (start : Nat) (cursor : Cursor) :
    Except Problem (Ast × Cursor) := do
  let negated := cursor.sees 'P'
  let current := cursor.next blanks
  match current.char? with
  | none => faultAt .escapeUnexpectedEnd current.here
  | some '\x7b' =>
    let (name, after) := (current.next blanks).takeWhile blanks (· ≠ '\x7d')
    if after.atEnd then faultAt .escapeUnexpectedEnd after.here
    else
      let finish := after.bump
      .ok (.property (finish.since start) (.ofText name) negated, finish)
  | some '\\' => faultAt .propertyInvalid current.charPart
  | some char =>
    let finish := current.next blanks
    .ok (.property (finish.since start) (.named char.toString) negated, finish)

/-- The special word boundary in braces, if the braces hold one and not the bounds of a repetition;
the cursor stands at the opening brace and the escape begins at `start`. -/
def readWordBoundary (blanks : Bool) (start : Nat) (cursor : Cursor) :
    Except Problem (Option (Assertion × Cursor)) := do
  let current := cursor.next blanks
  match current.char? with
  | none => faultAt .wordBoundaryUnexpectedEnd (current.since start)
  | some char =>
    let accept := fun (found : Char) => found.isAlpha || found = '-'
    if !accept char then .ok none
    else
      let (name, after) := current.takeWhile blanks accept
      if !after.sees '\x7d' then faultAt .wordBoundaryUnclosed (after.since cursor.offset)
      else
        let finish := after.bump
        match String.ofList name with
        | "start" => .ok (some (.wordStart, finish))
        | "end" => .ok (some (.wordEnd, finish))
        | "start-half" => .ok (some (.wordStartHalf, finish))
        | "end-half" => .ok (some (.wordEndHalf, finish))
        | _ => faultAt .wordBoundaryUnrecognized (after.since current.offset)

/-- The character that a letter after a backslash stands for. -/
def controlEscape? : Char → Option Char
  | 'a' => some '\x07'
  | 'f' => some '\x0c'
  | 't' => some '\t'
  | 'n' => some '\n'
  | 'r' => some '\r'
  | 'v' => some '\x0b'
  | _ => none

/-- The assertion that a character after a backslash stands for. -/
def assertionEscape? : Char → Option Assertion
  | 'A' => some .textStart
  | 'z' => some .textEnd
  | 'b' => some .wordBoundary
  | 'B' => some .notWordBoundary
  | '<' => some .wordStart
  | '>' => some .wordEnd
  | _ => none

/-- The short class that a letter after a backslash stands for, and whether it is negated. -/
def shortEscape? : Char → Option (ShortClass × Bool)
  | 'd' => some (.digit, false)
  | 's' => some (.space, false)
  | 'w' => some (.word, false)
  | 'D' => some (.digit, true)
  | 'S' => some (.space, true)
  | 'W' => some (.word, true)
  | _ => none

/-- An escape; the cursor stands at the backslash. -/
def readEscape (blanks : Bool) (cursor : Cursor) : Except Problem (Ast × Cursor) := do
  let start := cursor.offset
  let current := cursor.bump
  match current.char? with
  | none => faultAt .escapeUnexpectedEnd (current.since start)
  | some char =>
    if char.isDigit then faultAt .backreference ⟨start, current.bump.offset⟩
    else if char = 'x' || char = 'u' || char = 'U' then
      let (found, after) ← readHex blanks start current
      .ok (.literal found, after)
    else if char = 'p' || char = 'P' then readProperty blanks start current
    else
      let after := current.bump
      let part := after.since start
      match shortEscape? char with
      | some (kind, negated) => .ok (.short part kind negated, after)
      | none =>
        if isEscapable char then .ok (.literal ⟨char, false, part⟩, after)
        else
          match controlEscape? char, assertionEscape? char with
          | some control, _ => .ok (.literal ⟨control, false, part⟩, after)
          | none, some kind =>
            if char = 'b' && after.sees '\x7b' then
              match ← readWordBoundary blanks start after with
              | some (special, finish) => .ok (.assertion (finish.since start) special, finish)
              | none => .ok (.assertion part kind, after)
            else .ok (.assertion part kind, after)
          | none, none => faultAt .escapeUnrecognized part

end Utterance.Pattern

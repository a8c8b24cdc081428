import Utterance.Text.Split
import Utterance.Yaml.Lexer

/-!
# Tags and directives of YAML documents

A tag is written with a handle and a suffix, or in full between angle brackets. A directive before a
document states its version or what a handle stands for. In a suffix and in what a handle stands
for, a character may be written by its octets, each as a percent sign and two digits.
-/
namespace Utterance.Yaml

/-- Whether a character may stand in a name: of an anchor, of a handle or of a directive. -/
def isNameChar (char : Char) : Bool :=
  char.isAlphanum || char = '_' || char = '-'

/-- Whether a character may stand in a tag. -/
def isTagChar (verbatim : Bool) (char : Char) : Bool :=
  char.isAlphanum || "_-;/?:@&=+$.!~*'()%".toList.contains char ||
    (verbatim && ",[]".toList.contains char)

/-- What is under way where part of a tag is read. -/
def tagContext (directive : Bool) : String :=
  if directive then "while parsing a %TAG directive" else "while parsing a tag"

/-- The octet that is written next. -/
def peekOctet (directive : Bool) (start : Mark) : Lex Nat := do
  match (← get).rest with
  | '%' :: high :: low :: _ =>
    match Text.hexDigit? high, Text.hexDigit? low with
    | some high, some low => return 16 * high + low
    | _, _ => stopIn (tagContext directive) start "did not find URI escaped octet"
  | _ => stopIn (tagContext directive) start "did not find URI escaped octet"

/-- The octets of a character that starts with an octet, and the bits that the octet gives. -/
def octetCount (octet : Nat) : Option (Nat × Nat) :=
  if octet < 0x80 then some (1, octet)
  else if 0xc0 ≤ octet && octet < 0xe0 then some (2, octet - 0xc0)
  else if 0xe0 ≤ octet && octet < 0xf0 then some (3, octet - 0xe0)
  else if 0xf0 ≤ octet && octet < 0xf8 then some (4, octet - 0xf0)
  else none

/-- Take the further octets of a character, given the bits so far. -/
def takeOctets (directive : Bool) (start : Mark) : (count : Nat) → (bits : Nat) → Lex Nat
  | 0, bits => return bits
  | count + 1, bits => do
    let octet ← peekOctet directive start
    if octet < 0x80 || 0xc0 ≤ octet then
      stopIn (tagContext directive) start "found an incorrect trailing UTF-8 octet"
    else
      skipMany 3
      takeOctets directive start count (64 * bits + (octet - 0x80))

/-- The character of some bits, if it is one and that many octets are the fewest that spell it. -/
def charOfBits? (count bits : Nat) : Option Char :=
  let least := match count with
    | 1 => 0
    | 2 => 0x80
    | 3 => 0x800
    | _ => 0x10000
  if least ≤ bits && bits.isValidChar then some (Char.ofNat bits) else none

/-- Take a character that is written by its octets. -/
def takeEscaped (directive : Bool) (start : Mark) : Lex (Option Char) := do
  match octetCount (← peekOctet directive start) with
  | none => stopIn (tagContext directive) start "found an incorrect leading UTF-8 octet"
  | some (count, bits) =>
    skipMany 3
    return charOfBits? count (← takeOctets directive start (count - 1) bits)

/-- Take the characters of a tag. Each step takes at least one, so `fuel` is the number of those
left. -/
def takeTagChars (verbatim directive : Bool) (start : Mark) :
    (fuel : Nat) → Lex (List (Option Char))
  | 0 => return []
  | fuel + 1 => do
    match ← peek with
    | some '%' =>
      let char ← takeEscaped directive start
      return char :: (← takeTagChars verbatim directive start fuel)
    | some char =>
      if isTagChar verbatim char then
        skip
        return some char :: (← takeTagChars verbatim directive start fuel)
      else return []
    | none => return []

/-- Take the rest of a tag. -/
def scanTagText (verbatim directive : Bool) (start : Mark) (before : List Char) : Lex TagText := do
  let chars ← takeTagChars verbatim directive start (← get).rest.length
  return TagText.ofChars (before.map some ++ chars)

/-- Take a part of a tag that must not be empty. -/
def scanTagPart (verbatim directive : Bool) (start : Mark) : Lex TagText := do
  let before := (← get).mark
  let part ← scanTagText verbatim directive start []
  if (← get).mark = before then
    stopIn (tagContext directive) start "did not find expected tag URI"
  else return part

/-- Take a tag in angle brackets. -/
def scanVerbatimTag (start : Mark) : Lex (String × TagText) := do
  skipMany 2
  let text ← scanTagPart true false start
  if (← peek) = some '>' then
    skip
    return ("", text)
  else stopIn "while scanning a tag" start "did not find the expected '>'"

/-- Take a tag after its exclamation mark: a handle between two marks and a suffix, or a suffix. -/
def scanShortTag (start : Mark) : Lex (String × TagText) := do
  skip
  let name ← takeWhile isNameChar
  if (← peek) = some '!' then
    skip
    return ("!" ++ String.ofList name ++ "!", ← scanTagPart false false start)
  else
    let suffix ← scanTagText false false start name
    return if suffix.text.isEmpty then ("", ⟨"!", true⟩) else ("!", suffix)

/-- Take a tag. -/
def scanTag : Lex Unit := do
  let start := (← get).mark
  let (handle, suffix) ← if (← peekSecond) = some '<' then scanVerbatimTag start
    else scanShortTag start
  let lexer ← get
  if endsWord lexer.rest.head? || (lexer.inFlow && lexer.rest.head? = some ',') then
    push (.tag handle suffix) start lexer.mark
  else stopIn "while scanning a tag" start "did not find expected whitespace or line break"

/-- The most digits of a part of a version. -/
def maxVersionDigits : Nat := 9

/-- Take a part of a version. -/
def scanVersionPart (start : Mark) : Lex Nat := do
  let digits := (← get).rest.takeWhile Char.isDigit
  let context := "while scanning a %YAML directive"
  skipMany (min digits.length maxVersionDigits)
  if maxVersionDigits < digits.length then
    stopIn context start "found extremely long version number"
  else if digits.isEmpty then stopIn context start "did not find expected version number"
  else return digits.foldl (fun value digit => 10 * value + (digit.toNat - '0'.toNat)) 0

/-- Take the version that a directive states. -/
def scanVersion (start : Mark) : Lex Token := do
  let _ ← takeWhile isBlank
  let major ← scanVersionPart start
  if (← peek) = some '.' then
    skip
    return .version major (← scanVersionPart start)
  else
    stopIn "while scanning a %YAML directive" start "did not find expected digit or '.' character"

/-- Take the handle that a directive gives a meaning. -/
def scanHandle (start : Mark) : Lex String := do
  if (← peek) = some '!' then
    skip
    let name ← takeWhile isNameChar
    if (← peek) = some '!' then
      skip
      return "!" ++ String.ofList name ++ "!"
    else if name.isEmpty then return "!"
    else stopIn "while parsing a tag directive" start "did not find expected '!'"
  else stopIn "while scanning a tag directive" start "did not find expected '!'"

/-- Take a handle and its meaning. -/
def scanMeaning (start : Mark) : Lex Token := do
  let context := "while scanning a %TAG directive"
  let _ ← takeWhile isBlank
  let handle ← scanHandle start
  if !(← peek).any isBlank then stopIn context start "did not find expected whitespace"
  let _ ← takeWhile isBlank
  let meaning ← scanTagPart true true start
  if !endsWord (← peek) then
    stopIn context start "did not find expected whitespace or line break"
  return .handle handle meaning

/-- Take a directive. -/
def scanDirective : Lex Unit := do
  let context := "while scanning a directive"
  let start := (← get).mark
  skip
  let name ← takeWhile isNameChar
  if name.isEmpty then stopIn context start "could not find expected directive name"
  if !endsWord (← peek) then
    stopIn context start "found unexpected non-alphabetical character"
  let token ← match String.ofList name with
    | "YAML" => scanVersion start
    | "TAG" => scanMeaning start
    | _ => stopIn context start "found unknown directive name"
  let stop := (← get).mark
  let _ ← takeWhile isBlank
  if (← peek) = some '#' then
    let _ ← takeWhile fun char => !isBreak char
  if !endsLine (← peek) then stopIn context start "did not find expected comment or line break"
  if (← peek).isSome then
    let _ ← takeBreak
  push token start stop

end Utterance.Yaml

import Utterance.Number.Shortest
import Utterance.Text.Quoted
import Utterance.Yaml.Chars
import Utterance.Yaml.Scalar

/-!
# Writing YAML

A document is written in block style, two blanks for each level; a sequence that is the value of a
key is not indented. Text is written plain where it reads back as the same text, then in single
quotes, and in double quotes when it holds characters that have to be escaped. Text of several lines
is a literal block where that is possible.
-/
namespace Utterance.Yaml

/-- A document to write. -/
inductive Node where
  /-- A scalar whose form needs no quotes. -/
  | plain (text : String)
  /-- Text. -/
  | text (text : String)
  | sequence (items : List Node)
  | mapping (entries : List (String × Node))
deriving Repr, Inhabited

/-- A number as a plain scalar. -/
def Node.ofNumber : Number → Node
  | .nan => .plain ".nan"
  | .infinite negative => .plain (if negative then "-.inf" else ".inf")
  | .finite negative mantissa exponent => .plain (Number.documentText negative mantissa exponent)

/-- How a scalar is written. -/
inductive WritingStyle where
  | plain
  | singleQuoted
  | doubleQuoted
  | literal
deriving Repr, DecidableEq, Inhabited

/-- Whether a character is a blank, a tabulator or the end of a line. -/
def isBlankOrBreak (char : Char) : Bool := isBlank char || isBreak char

/-- Whether a character can be written outside double quotes. -/
def isPrintable (char : Char) : Bool :=
  let code := char.toNat
  code = 0xa || (0x20 ≤ code && code ≤ 0x7e) || (0xa0 ≤ code && code ≤ 0xd7ff) ||
    (0xe000 ≤ code && code ≤ 0xfffd && code ≠ 0xfeff) || 0x10000 ≤ code

/-- What the characters of a text allow. -/
structure Analysis where
  /-- The text has more than one line. -/
  multiline : Bool
  /-- The text can be written plain. -/
  plainAllowed : Bool
  /-- The text can be written in single quotes. -/
  singleQuotedAllowed : Bool
  /-- The text can be written as a block. -/
  blockAllowed : Bool
deriving Repr, Inhabited

/-- Characters that cannot begin a plain scalar. -/
def openingIndicators : List Char := "#,[]\x7b\x7d&*!|>'\"%@".toList ++ [Char.ofNat 0x60]

/-- Whether a text has a mark that would end a plain scalar or begin something else; `before` is the
character before, if there is one. -/
def hasIndicator (before : Option Char) : List Char → Bool
  | [] => false
  | char :: rest =>
    let followed := rest.head?.all isBlankOrBreak
    let here := match before with
      | none =>
        openingIndicators.contains char || ((char = '?' || char = ':' || char = '-') && followed)
      | some previous =>
        (char = ':' && followed) || (char = '#' && isBlankOrBreak previous)
    here || hasIndicator (some char) rest

/-- Whether two neighbouring characters stand somewhere in a text. -/
def hasPair (first second : Char → Bool) : List Char → Bool
  | char :: next :: rest => (first char && second next) || hasPair first second (next :: rest)
  | _ => false

/-- What the characters of a text allow. -/
def analyze (text : String) : Analysis :=
  let chars := text.toList
  let isSpace := fun (char : Char) => decide (char = ' ')
  let atEdge := fun (test : Char → Bool) => chars.head?.any test || chars.getLast?.any test
  let breakSpace := hasPair isBreak isSpace chars
  let escapes := hasPair isSpace isBreak chars || chars.any (!isPrintable ·)
  let marked := (text.startsWith "---" || text.startsWith "...") || hasIndicator none chars
  let multiline := chars.any isBreak
  { multiline
    plainAllowed :=
      !(atEdge isSpace || atEdge isBreak || breakSpace || escapes || multiline || marked)
    singleQuotedAllowed := !(breakSpace || escapes)
    blockAllowed := !(chars.isEmpty || chars.getLast?.any isSpace || escapes) }

/-- How a text is written, as a key on one line or elsewhere. -/
def styleOf (text : String) (simpleKey : Bool) : WritingStyle :=
  let analysis := analyze text
  let reads := match Scalar.ofPlain text with
    | .text _ => isPaddedDigits text.toList
    | _ => true
  let wanted : WritingStyle :=
    if text.toList.contains '\n' then .literal else if reads then .singleQuoted else .plain
  let chosen := if simpleKey && analysis.multiline then WritingStyle.doubleQuoted else wanted
  match chosen with
  | .plain =>
    if analysis.plainAllowed && !(text.isEmpty && simpleKey) then .plain
    else if analysis.singleQuotedAllowed then .singleQuoted
    else .doubleQuoted
  | .singleQuoted => if analysis.singleQuotedAllowed then .singleQuoted else .doubleQuoted
  | .literal => if analysis.blockAllowed && !simpleKey then .literal else .doubleQuoted
  | .doubleQuoted => .doubleQuoted

/-- A number in hexadecimal, upper case, with at least so many digits. -/
def paddedHex (width value : Nat) : String :=
  let digits := (Nat.toDigits 16 value).map Char.toUpper
  String.ofList (List.replicate (width - digits.length) '0' ++ digits)

/-- The escape of a character in double quotes. -/
def escapeChar (char : Char) : String :=
  match char.toNat with
  | 0x00 => "\\0"
  | 0x07 => "\\a"
  | 0x08 => "\\b"
  | 0x09 => "\\t"
  | 0x0a => "\\n"
  | 0x0b => "\\v"
  | 0x0c => "\\f"
  | 0x0d => "\\r"
  | 0x1b => "\\e"
  | 0x22 => "\\\""
  | 0x5c => "\\\\"
  | 0x85 => "\\N"
  | 0xa0 => "\\_"
  | 0x2028 => "\\L"
  | 0x2029 => "\\P"
  | code =>
    if code ≤ 0xff then "\\x" ++ paddedHex 2 code
    else if code ≤ 0xffff then "\\u" ++ paddedHex 4 code
    else "\\U" ++ paddedHex 8 code

/-- A text in double quotes. -/
def doubleQuoted (text : String) : String :=
  let escaped := text.toList.map fun char =>
    if !isPrintable char || isBreak char || char = '"' || char = '\\' then escapeChar char
    else char.toString
  "\"" ++ String.join escaped ++ "\""

/-- Blanks of a level of indentation. -/
def blanks (indent : Nat) : String := String.ofList (List.replicate indent ' ')

/-- The characters of a text between single quotes. After a separator of lines the text goes on at a
level of indentation; `broken` tells whether one has just been written. -/
def singleQuotedChars (indent : Nat) (broken : Bool) : List Char → List Char
  | [] => if broken then List.replicate indent ' ' else []
  | char :: rest =>
    if isBreak char then char :: singleQuotedChars indent true rest
    else
      (if broken then List.replicate indent ' ' else []) ++
        (if char = apostrophe then [apostrophe, apostrophe] else [char]) ++
        singleQuotedChars indent false rest

/-- A text in single quotes. -/
def singleQuoted (text : String) (indent : Nat) : String :=
  "'" ++ String.ofList (singleQuotedChars indent false text.toList) ++ "'"

/-- The lines of a literal block at a level of indentation. Every line end is written as it is;
`fresh` tells whether the next character begins a line. -/
def literalChars (indent : Nat) (fresh : Bool) : List Char → List Char
  | [] => []
  | char :: rest =>
    if isBreak char then char :: literalChars indent true rest
    else
      (if fresh then List.replicate indent ' ' else []) ++ char :: literalChars indent false rest

/-- How a literal block tells its last line ends: without a mark there is one, after a hyphen there
is none, and after a plus sign all that stand there count. -/
def chomping (chars : List Char) : String :=
  match chars.reverse with
  | [] => "-"
  | [last] => if isBreak last then "+" else "-"
  | last :: other :: _ => if !isBreak last then "-" else if isBreak other then "+" else ""

/-- A text as a literal block whose lines stand at a level of indentation. -/
def literalBlock (text : String) (indent : Nat) : String :=
  let chars := text.toList
  let hint := if chars.head?.any fun char => char = ' ' || isBreak char then "2" else ""
  "|" ++ hint ++ chomping chars ++ "\n" ++ String.ofList (literalChars indent true chars)

/-- A text as a scalar whose further lines stand at a level of indentation. -/
def writeText (text : String) (simpleKey : Bool) (indent : Nat) : String :=
  match styleOf text simpleKey with
  | .plain => text
  | .singleQuoted => singleQuoted text indent
  | .doubleQuoted => doubleQuoted text
  | .literal => literalBlock text indent

/-- What has been written, with the end of its line. A literal block may have written that end. -/
def endLine (written : String) : String :=
  if written.toList.getLast?.any isBreak then written else written ++ "\n"

/-- Whether a key can stand on one line with its value: a short text without line ends. -/
def isSimpleKey (key : String) : Bool := key.utf8ByteSize ≤ 128 && !(analyze key).multiline

/-- The key of an entry up to its colon. -/
def writeKey (key : String) (indent : Nat) : String :=
  if isSimpleKey key then writeText key true (indent + 2) ++ ":"
  else endLine ("? " ++ writeText key false (indent + 2)) ++ blanks indent ++ ":"

mutual

/-- A node that follows a mark for an item on its line: what stands on the same line, and further
lines at a level of indentation. -/
def writeItem (indent : Nat) : Node → String
  | .plain text => text
  | .text text => writeText text false (indent + 2)
  | .sequence [] => "[]"
  | .sequence (item :: rest) => writeItems (indent + 2) (item :: rest)
  | .mapping [] => "\x7b\x7d"
  | .mapping (entry :: rest) => writeEntries (indent + 2) (entry :: rest)

/-- A node that follows a key with its colon, in a mapping at a level of indentation. -/
def writeValue (indent : Nat) (simple : Bool) : Node → String
  | .sequence (item :: rest) =>
    if simple then "\n" ++ blanks indent ++ writeItems indent (item :: rest)
    else " " ++ writeItems (indent + 2) (item :: rest)
  | .mapping (entry :: rest) =>
    if simple then "\n" ++ blanks (indent + 2) ++ writeEntries (indent + 2) (entry :: rest)
    else " " ++ writeEntries (indent + 2) (entry :: rest)
  | .plain text => " " ++ text
  | .text text => " " ++ writeText text false (indent + 2)
  | .sequence [] => " []"
  | .mapping [] => " \x7b\x7d"

/-- The items of a sequence at a level of indentation; the first one stands where the line has got
to. -/
def writeItems (indent : Nat) : List Node → String
  | [] => ""
  | [item] => "- " ++ writeItem indent item
  | item :: rest =>
    endLine ("- " ++ writeItem indent item) ++ blanks indent ++ writeItems indent rest

/-- The entries of a mapping at a level of indentation; the first one stands where the line has got
to. -/
def writeEntries (indent : Nat) : List (String × Node) → String
  | [] => ""
  | [(key, node)] => writeKey key indent ++ writeValue indent (isSimpleKey key) node
  | (key, node) :: rest =>
    endLine (writeKey key indent ++ writeValue indent (isSimpleKey key) node) ++ blanks indent ++
      writeEntries indent rest

end

/-- The text of a document with the given entries. -/
def writeDocument (entries : List (String × Node)) : String := endLine (writeEntries 0 entries)

end Utterance.Yaml

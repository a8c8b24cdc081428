import Utterance.Diagnostic
import Utterance.Diagnostic.Window
import Utterance.Text.Wrap

/-!
# Reports

A diagnostic is shown to people as a report: its code, its message, the lines of the source around
its span with the span marked, and its advice. A span within one line is underlined and its label
hangs from the middle of the line; a span over several lines has a bracket along them, and its label
hangs from the end of the bracket.
-/
namespace Utterance

/-- A line of a source. -/
structure SourceLine where
  /-- The number of the line, counted from one. -/
  number : Nat
  /-- Bytes before the line. -/
  offset : Nat
  /-- Bytes in the line, with the line feed at its end. -/
  length : Nat
  /-- The characters before the line feed. -/
  chars : List Char
deriving Repr, DecidableEq, Inhabited

namespace SourceLine

/-- Bytes before the next line. -/
def stop (line : SourceLine) : Nat := line.offset + line.length

/-- Lines of characters, given the number of lines before, the offset and the characters read of the
line under way; a carriage return before a line feed belongs to it. A last line without a line feed
is counted unless a carriage return ends it. -/
def ofChars (before offset : Nat) (read : List Char) : List Char → List SourceLine
  | [] =>
    if read.isEmpty then []
    else [⟨if read.getLast? = some '\r' then before else before + 1, offset, bytes read, read⟩]
  | '\n' :: rest =>
    let text := if read.getLast? = some '\r' then read.dropLast else read
    let length := bytes read + 1
    ⟨before + 1, offset, length, text⟩ :: ofChars (before + 1) (offset + length) [] rest
  | char :: rest => ofChars before offset (read ++ [char]) rest
where
  /-- Bytes of characters. -/
  bytes (chars : List Char) : Nat := (String.ofList chars).utf8ByteSize

/-- Whether a span lies in a line. -/
def holds (line : SourceLine) (span : ByteSpan) : Bool :=
  line.offset ≤ span.offset && span.offset + span.length ≤ line.stop

/-- Whether a span starts in a line. -/
def startsIn (line : SourceLine) (span : ByteSpan) : Bool :=
  line.offset ≤ span.offset && span.offset < line.stop

/-- Whether a span, which counts for one byte at least, stops in a line. -/
def stopsIn (line : SourceLine) (span : ByteSpan) : Bool :=
  let stop := span.offset + max span.length 1
  line.offset < stop && stop ≤ line.stop

/-- Whether a span has some part in a line. -/
def touches (line : SourceLine) (span : ByteSpan) : Bool :=
  line.startsIn span || line.stopsIn span ||
    (span.offset < line.offset && line.stop < span.offset + max span.length 1)

/-- Whether a span goes on beyond a line in which it has some part. -/
def crosses (line : SourceLine) (span : ByteSpan) : Bool :=
  line.touches span && !(line.startsIn span && line.stopsIn span)

/-- Characters of a line before a byte. A byte inside a character counts as its first byte if `down`
holds, and else as the first byte after it. -/
def charsBefore (down : Bool) : (bytes : Nat) → List Char → List Char
  | 0, _ => []
  | _, [] => []
  | bytes, char :: rest =>
    if down && bytes < char.utf8Size then []
    else char :: charsBefore down (bytes - char.utf8Size) rest

/-- The columns of each character of a line. -/
def columns (line : SourceLine) : List Nat :=
  Text.lineColumns Text.Measure.earlier 0 false line.chars

/-- The column of a byte of a line; bytes of the line feed have the column after the text. -/
def column (line : SourceLine) (down : Bool) (offset : Nat) : Nat :=
  let bytes := offset - line.offset
  let before := charsBefore down bytes line.chars
  let width := (line.columns.take before.length).foldl (· + ·) 0
  if (String.ofList line.chars).utf8ByteSize < bytes then width + 1 else width

/-- The text of a line with its tabs filled by blanks. -/
def text (line : SourceLine) : String :=
  String.ofList ((line.chars.zip line.columns).flatMap fun (char, width) =>
    if char = '\t' then List.replicate width ' ' else [char])

/-- The lines of a source around a span. -/
def around (content : String) (span : ByteSpan) : List SourceLine :=
  let window := Window.around content.toList span
  ofChars window.linesBefore window.start [] (window.chars content.toList)

end SourceLine

namespace Report

/-- Columns of a report. -/
def width : Nat := 78

/-- Copies of a text. -/
def times (count : Nat) (text : String) : String := String.join (List.replicate count text)

/-- Text filled into lines under two indents of one width, the first for the first line. -/
def paragraph (first rest : String) (text : String) : List String :=
  match Text.wrap (width - first.length) text with
  | [] => []
  | line :: lines => (first ++ line) :: lines.map (rest ++ ·)

/-- A number at the right of a field. -/
def padded (size : Nat) (number : Nat) : String :=
  let digits := toString number
  times (size - digits.length) " " ++ digits

/-- The marks under a line that holds the span: the underline, and the label. -/
def underline (line : SourceLine) (span : ByteSpan) (label : String) : List String :=
  let start := line.column true span.offset
  let stop := if span.length = 0 then start + 1
    else max (line.column false (span.offset + span.length)) (start + 1)
  let middle := (start + stop) / 2
  [times start " " ++ times (middle - start) "─" ++ (if span.length = 0 then "▲" else "┬") ++
      times (stop - middle - 1) "─",
    times middle " " ++ "╰── " ++ label]

/-- The part of the bracket beside a line, if any line of the excerpt has one. -/
def bracket (line : SourceLine) (span : ByteSpan) : String :=
  if !line.crosses span then "    "
  else if line.offset ≤ span.offset then "╭─▶ "
  else if span.offset + span.length ≤ line.stop then "├─▶ "
  else "│   "

/-- A line of the excerpt with the marks under it. -/
def excerptLine (size : Nat) (bracketed : Bool) (span : ByteSpan) (label : String)
    (line : SourceLine) : List String :=
  let margin := times (size + 2) " " ++ "· "
  let shown := " " ++ padded size line.number ++ " │ " ++
    (if bracketed then bracket line span else "") ++ line.text
  let marks :=
    if !line.touches span then []
    else if line.holds span then
      (underline line span label).map fun mark => (if bracketed then "    " else "") ++ mark
    else if line.offset ≤ span.offset then []
    else if span.offset + span.length ≤ line.stop then ["╰──── " ++ label]
    else []
  shown :: marks.map (margin ++ ·)

/-- The lines of a source around a span, with the span marked. -/
def excerpt (source : Source) (span : ByteSpan) (label : String) : List String :=
  if source.content.utf8ByteSize + 1 < span.offset + span.length then
    ["  [Failed to read contents for label `" ++ label ++ "` (offset: " ++ toString span.offset ++
      ", length: " ++ toString span.length ++ "): OutOfBounds]"]
  else
    let lines := SourceLine.around source.content span
    let size := (toString ((lines.getLast?.map (·.number)).getD 0)).length
    let bracketed := lines.any fun line => !line.holds span && line.crosses span
    let position := Window.position source.content.toList span.offset
    let margin := times (size + 2) " "
    [margin ++ "╭─[" ++ source.name ++ ":" ++ toString (position.line + 1) ++ ":" ++
      toString (position.column + 1) ++ "]"] ++
      lines.flatMap (excerptLine size bracketed span label) ++ [margin ++ "╰────"]

end Report

namespace Diagnostic

/-- The report of a diagnostic. -/
def report (diagnostic : Diagnostic) : String :=
  let lines := [diagnostic.code, ""] ++
    Report.paragraph "  × " "  │ " diagnostic.fault.message ++
    Report.excerpt diagnostic.source diagnostic.span diagnostic.fault.label ++
    (diagnostic.help.map (Report.paragraph "  help: " "        ")).getD []
  String.join (lines.map (· ++ "\n"))

end Diagnostic

end Utterance

import Utterance.Diagnostic
import Utterance.Text.Position

/-!
# The window of a report

A report shows the lines of a span and one line on each side. The window is the stretch of bytes
that it shows. Here a line feed, a carriage return, and the two together each end a line, and a line
end stands where its last byte stands.
-/
namespace Utterance

/-- The stretch of a source that a report shows. -/
structure Window where
  /-- Lines before it. -/
  linesBefore : Nat
  /-- Bytes before it. -/
  start : Nat
  /-- Bytes before its end. -/
  stop : Nat
deriving Repr, DecidableEq, Inhabited

namespace Window

/-- A character, or two that end a line together. -/
structure Unit where
  /-- Whether it ends a line. -/
  endsLine : Bool
  /-- Its number of bytes. -/
  size : Nat
deriving Repr, DecidableEq, Inhabited

/-- The units of characters. -/
def units : List Char → List Unit
  | '\r' :: '\n' :: rest => ⟨true, 2⟩ :: units rest
  | char :: rest => ⟨char = '\r' || char = '\n', char.utf8Size⟩ :: units rest
  | [] => []

/-- The place of a byte, given the place of the units and the number of bytes before them. Line ends
before the byte count as lines, and the bytes since the last of them as its column. -/
def positionFrom (offset target : Nat) (position : Text.Position) : List Unit → Text.Position
  | [] => position
  | unit :: rest =>
    if unit.endsLine then
      if offset + unit.size ≤ target then
        positionFrom (offset + unit.size) target ⟨position.line + 1, 0⟩ rest
      else position
    else
      let column := position.column + min unit.size (target - offset)
      positionFrom (offset + unit.size) target ⟨position.line, column⟩ rest

/-- The place of a byte of a text. -/
def position (text : List Char) (offset : Nat) : Text.Position :=
  positionFrom 0 offset ⟨0, 0⟩ (units text)

/-- Where the lines start that end before a byte, given where the line under way starts and the
number of bytes before the units. -/
def startsBefore (offset target lineStart : Nat) : List Unit → List Nat
  | [] => []
  | unit :: rest =>
    let next := offset + unit.size
    if target < next then []
    else if unit.endsLine then lineStart :: startsBefore next target next rest
    else startsBefore next target lineStart rest

/-- Where the window stops, given the number of bytes before the units. `reached` says whether the
end of the span has been read, and `ended` whether its line has ended. -/
def stopFrom (span : ByteSpan) (offset : Nat) (reached ended : Bool) : List Unit → Nat
  | [] => offset
  | unit :: rest =>
    let next := offset + unit.size
    let after := reached || span.offset + span.length ≤ next
    if unit.endsLine && reached && span.offset + (span.length - 1) < next then
      if ended then next else stopFrom span next after true rest
    else stopFrom span next after ended rest

/-- The window around a span of a text: it starts with the line before that of the span. -/
def around (text : List Char) (span : ByteSpan) : Window :=
  let parts := units text
  let starts := startsBefore 0 span.offset 0 parts
  ⟨starts.length - 1, starts.getLast?.getD 0, stopFrom span 0 false false parts⟩

/-- The characters of a text that start at a byte or after it and before another. -/
def charsBetween (offset start stop : Nat) : List Char → List Char
  | [] => []
  | char :: rest =>
    let kept := charsBetween (offset + char.utf8Size) start stop rest
    if start ≤ offset && offset < stop then char :: kept else kept

/-- The characters of a window. -/
def chars (window : Window) (text : List Char) : List Char :=
  charsBetween 0 window.start window.stop text

end Window

end Utterance

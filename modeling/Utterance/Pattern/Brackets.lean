import Utterance.Pattern.Escape

/-!
# Classes in brackets

Between brackets stand characters, ranges, escapes, named classes and further brackets, joined by
set operations that associate to the left. The reader keeps a stack: a frame for each bracket that
is open and a frame for each operation whose right side is still being read.
-/
namespace Utterance.Pattern

/-- Items read so far between brackets, and the part they take up. -/
structure ItemRun where
  /-- From the first item to the last, or the place where the first would stand. -/
  part : Part
  /-- The items in order. -/
  items : List ClassItem
deriving Inhabited

namespace ItemRun

/-- The run with one more item. -/
def push (run : ItemRun) (item : ClassItem) : ItemRun :=
  { part := ⟨if run.items.isEmpty then item.part.start else run.part.start, item.part.stop⟩
    items := run.items ++ [item] }

/-- The run as one item. -/
def toItem (run : ItemRun) : ClassItem :=
  match run.items with
  | [] => .empty run.part
  | [item] => item
  | items => .union run.part items

end ItemRun

/-- What is waiting while the contents of brackets are read. -/
inductive BracketFrame where
  /-- A bracket is open: items read before it, where it opens and whether it is negated. -/
  | opened (outer : ItemRun) (part : Part) (negated : Bool)
  /-- An operation waits for its right side. -/
  | pending (kind : SetOperation) (left : ClassSet)
deriving Inhabited

/-- The class named inside brackets. -/
def AsciiClass.ofName? : String → Option AsciiClass
  | "alnum" => some .alnum
  | "alpha" => some .alpha
  | "ascii" => some .ascii
  | "blank" => some .blank
  | "cntrl" => some .cntrl
  | "digit" => some .digit
  | "graph" => some .graph
  | "lower" => some .lower
  | "print" => some .print
  | "punct" => some .punct
  | "space" => some .space
  | "upper" => some .upper
  | "word" => some .word
  | "xdigit" => some .xdigit
  | _ => none

/-- A named class such as `[:alpha:]`, if one comes next; otherwise the bracket opens a class. -/
def readAsciiClass? (cursor : Cursor) : Option (ClassItem × Cursor) := do
  let inner ← cursor.after? ['[', ':']
  let (negated, named) := if inner.sees '^' then (true, inner.bump) else (false, inner)
  let (name, after) := named.takeWhile false (· ≠ ':')
  let finish ← after.after? [':', ']']
  let kind ← AsciiClass.ofName? (String.ofList name)
  some (.ascii (finish.since cursor.offset) kind negated, finish)

/-- Hyphens at the start of a class, which stand for themselves. -/
def readHyphens (blanks : Bool) (start : Nat) : (fuel : Nat) → ItemRun → Cursor →
    Except Problem (ItemRun × Cursor)
  | 0, run, cursor => .ok (run, cursor)
  | fuel + 1, run, cursor =>
    if cursor.sees '-' then
      let after := cursor.next blanks
      if after.atEnd then faultAt .classUnclosed ⟨start, start⟩
      else readHyphens blanks start fuel (run.push (.literal ⟨'-', false, cursor.charPart⟩)) after
    else .ok (run, cursor)

/-- Open a class: the frame to wait in, the items that the opening holds, and the cursor after it.
-/
def openBracket (blanks : Bool) (outer : ItemRun) (cursor : Cursor) :
    Except Problem (BracketFrame × ItemRun × Cursor) := do
  let start := cursor.offset
  let first := cursor.next blanks
  if first.atEnd then faultAt .classUnclosed (first.since start)
  else
    let negated := first.sees '^'
    let second := if negated then first.next blanks else first
    if second.atEnd then faultAt .classUnclosed (second.since start)
    else
      let (run, third) ←
        readHyphens blanks start second.rest.length ⟨second.here, []⟩ second
      if run.items.isEmpty && third.sees ']' then
        let after := third.next blanks
        if after.atEnd then faultAt .classUnclosed (after.since start)
        else
          .ok (.opened outer (after.since start) negated,
            run.push (.literal ⟨']', false, third.charPart⟩), after)
      else .ok (.opened outer (third.since start) negated, run, third)

/-- The fault of a class that is never closed: the innermost open bracket has it. -/
def unclosedClass {α : Type} : List BracketFrame → Except Problem α
  | [] => faultAt .classUnclosed ⟨0, 0⟩
  | .opened _ part _ :: _ => faultAt .classUnclosed part
  | .pending _ _ :: rest => unclosedClass rest

/-- Combine a set with the operation that waits for it. -/
def applyPending (right : ClassSet) : List BracketFrame → ClassSet × List BracketFrame
  | .pending kind left :: rest =>
    (.operation ⟨left.part.start, right.part.stop⟩ kind left right, rest)
  | stack => (right, stack)

/-- An item that may stand alone between brackets. -/
def itemOfNode : Ast → Except Problem ClassItem
  | .literal char => .ok (.literal char)
  | .property part query negated => .ok (.property part query negated)
  | .short part kind negated => .ok (.short part kind negated)
  | node => faultAt .classEscapeInvalid node.part

/-- An item that may bound a range. -/
def boundOfNode : Ast → Except Problem Literal
  | .literal char => .ok char
  | node => faultAt .classRangeLiteral node.part

/-- A character or escape between brackets. -/
def readClassNode (blanks : Bool) (char : Char) (cursor : Cursor) : Except Problem (Ast × Cursor) :=
  if char = '\\' then readEscape blanks cursor
  else .ok (.literal ⟨char, false, cursor.charPart⟩, cursor.bump)

/-- A single item or a range; `stack` tells which bracket is open if the pattern ends. -/
def readClassRange (blanks : Bool) (stack : List BracketFrame) (char : Char) (cursor : Cursor) :
    Except Problem (ClassItem × Cursor) := do
  let (first, behind) ← readClassNode blanks char cursor
  let after := behind.skip blanks
  if after.atEnd then unclosedClass stack
  else
    let peeked := after.peekSpaced? blanks
    if !after.sees '-' || peeked == some ']' || peeked == some '-' then
      let item ← itemOfNode first
      .ok (item, after)
    else
      let right := after.next blanks
      match right.char? with
      | none => unclosedClass stack
      | some other =>
        let (second, finish) ← readClassNode blanks other right
        let low ← boundOfNode first
        let high ← boundOfNode second
        if low.char ≤ high.char then .ok (.range low high, finish)
        else faultAt .classRangeInvalid ⟨low.part.start, high.part.stop⟩

/-- The set operation that comes next. -/
def setOperation? (cursor : Cursor) : Option SetOperation :=
  match cursor.rest with
  | '&' :: '&' :: _ => some .intersection
  | '-' :: '-' :: _ => some .difference
  | '~' :: '~' :: _ => some .symmetricDifference
  | _ => none

/-- Read the contents of brackets to the end of the outermost one. -/
def readBracketed (blanks : Bool) : (fuel : Nat) → List BracketFrame → ItemRun → Cursor →
    Except Problem (Ast × Cursor)
  | 0, stack, _, _ => unclosedClass stack
  | fuel + 1, stack, run, behind => do
    let cursor := behind.skip blanks
    match cursor.char? with
    | none => unclosedClass stack
    | some '[' =>
      match readAsciiClass? cursor with
      | some (item, after) => readBracketed blanks fuel stack (run.push item) after
      | none =>
        let (frame, inner, after) ← openBracket blanks run cursor
        readBracketed blanks fuel (frame :: stack) inner after
    | some ']' =>
      let (set, waiting) := applyPending (.item run.toItem) stack
      let after := cursor.bump
      match waiting with
      | .opened outer part negated :: rest =>
        let whole := after.since part.start
        if rest.isEmpty then .ok (.bracketed whole negated set, after)
        else readBracketed blanks fuel rest (outer.push (.bracketed whole negated set)) after
      | _ => unclosedClass stack
    | some char =>
      match setOperation? cursor with
      | some kind =>
        let after := cursor.bump.bump
        let (left, waiting) := applyPending (.item run.toItem) stack
        readBracketed blanks fuel (.pending kind left :: waiting) ⟨after.here, []⟩ after
      | none =>
        let (item, after) ← readClassRange blanks stack char cursor
        readBracketed blanks fuel stack (run.push item) after

/-- A class in brackets; the cursor stands at the opening bracket. -/
def readClass (blanks : Bool) (cursor : Cursor) : Except Problem (Ast × Cursor) := do
  let (frame, run, after) ← openBracket blanks ⟨cursor.here, []⟩ cursor
  readBracketed blanks (after.rest.length + 1) [frame] run after

end Utterance.Pattern

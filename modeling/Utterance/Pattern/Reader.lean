import Utterance.Pattern.Brackets
import Utterance.Text.Words

/-!
# Reading a pattern

The reader goes through the pattern once. It keeps the items of the concatenation under way and a
stack of what surrounds it: a frame for each open group and a frame for each alternation whose last
branch is still being read. `Ast.read` gives the tree of a pattern or the first problem in it.
-/
namespace Utterance.Pattern

/-- Items of a concatenation under way and where it starts. -/
structure ItemList where
  /-- Byte offset of the start. -/
  start : Nat
  /-- The items in order. -/
  items : List Ast
deriving Inhabited

namespace ItemList

/-- The list with one more item. -/
def push (list : ItemList) (node : Ast) : ItemList := { list with items := list.items ++ [node] }

/-- The concatenation as one node that ends at the given offset. -/
def toNode (list : ItemList) (stop : Nat) : Ast :=
  match list.items with
  | [] => .empty ⟨list.start, stop⟩
  | [node] => node
  | items => .concat ⟨list.start, stop⟩ items

end ItemList

/-- What surrounds the concatenation under way. -/
inductive GroupFrame where
  /-- An open group: the items before it, where it opens, its flags, and whether blanks were ignored
  outside it. -/
  | group (outer : ItemList) (opening : Part) (flags : List FlagItem) (blanks : Bool)
  /-- An alternation: where it starts and its branches so far. -/
  | alternation (start : Nat) (branches : List Ast)
deriving Inhabited

/-- The reader's state between two items. -/
structure Reading where
  /-- Where it reads. -/
  cursor : Cursor
  /-- Whether blanks and comments are ignored. -/
  blanks : Bool
  /-- Names of groups so far. -/
  names : List String
  /-- What surrounds the concatenation under way, innermost first. -/
  stack : List GroupFrame
  /-- The concatenation under way. -/
  current : ItemList
deriving Inhabited

/-- What an opening parenthesis begins. -/
inductive Opening where
  /-- Flags for the rest of the surrounding group. -/
  | flags (part : Part) (items : List FlagItem)
  /-- A group with flags of its own, perhaps with a name. -/
  | group (opening : Part) (items : List FlagItem) (name : Option String)

/-- The flag that a letter stands for. -/
def Flag.ofChar? : Char → Option Flag
  | 'i' => some .caseInsensitive
  | 'm' => some .multiLine
  | 's' => some .dotMatchesNewLine
  | 'U' => some .swapGreed
  | 'u' => some .unicode
  | 'R' => some .carriageReturns
  | 'x' => some .ignoreBlanks
  | _ => none

/-- Flags up to a colon or a closing parenthesis; `dangling` is the part of a negation that nothing
follows yet. -/
def readFlags : (fuel : Nat) → (items : List FlagItem) → (dangling : Option Part) → Cursor →
    Except Problem (List FlagItem × Cursor)
  | 0, _, _, cursor => faultAt .flagUnexpectedEnd cursor.here
  | fuel + 1, items, dangling, cursor =>
    match cursor.char? with
    | none => faultAt .flagUnexpectedEnd cursor.here
    | some char =>
      if char = ':' || char = ')' then
        match dangling with
        | some part => faultAt .flagDanglingNegation part
        | none => .ok (items, cursor)
      else if char = '-' then
        if items.contains .negation then faultAt .flagRepeatedNegation cursor.charPart
        else readFlags fuel (items ++ [.negation]) (some cursor.charPart) cursor.bump
      else
        match Flag.ofChar? char with
        | none => faultAt .flagUnrecognized cursor.charPart
        | some flag =>
          if items.contains (.flag flag) then faultAt .flagDuplicate cursor.charPart
          else readFlags fuel (items ++ [.flag flag]) none cursor.bump

/-- Whether a character may stand in the name of a group. -/
def isNameChar (first : Bool) (char : Char) : Bool :=
  char = '_' || Text.isAlphabetic char ||
    (!first && (char = '.' || char = '[' || char = ']' || Text.isAlphanumeric char))

/-- The name of a group up to its closing angle bracket. -/
def readName (names : List String) (cursor : Cursor) : Except Problem (String × Cursor) := do
  go cursor.rest.length [] cursor
where
  /-- Take characters of the name while there are any. -/
  go : (fuel : Nat) → List Char → Cursor → Except Problem (String × Cursor)
    | fuel, taken, current =>
      match current.char?, fuel with
      | none, _ => faultAt .groupNameUnexpectedEnd current.here
      | some '>', _ =>
        let name := String.ofList taken
        if taken.isEmpty then faultAt .groupNameEmpty cursor.here
        else if names.contains name then faultAt .groupNameDuplicate (current.since cursor.offset)
        else .ok (name, current.bump)
      | some char, fuel + 1 =>
        if isNameChar taken.isEmpty char then go fuel (taken ++ [char]) current.bump
        else faultAt .groupNameInvalid current.charPart
      | some _, 0 => faultAt .groupNameInvalid current.charPart

/-- What stands after an opening parenthesis; the cursor stands at the parenthesis. -/
def readOpening (blanks : Bool) (names : List String) (cursor : Cursor) :
    Except Problem (Opening × Cursor) := do
  let opening := cursor.charPart
  let inner := cursor.next blanks
  let lookAround := (inner.after? ['?', '=']).orElse fun _ => (inner.after? ['?', '!']).orElse
    fun _ => (inner.after? ['?', '<', '=']).orElse fun _ => inner.after? ['?', '<', '!']
  match lookAround with
  | some after => faultAt .lookAround (after.since opening.start)
  | none =>
    match (inner.after? ['?', 'P', '<']).orElse fun _ => inner.after? ['?', '<'] with
    | some named => do
      let (name, after) ← readName names named
      .ok (.group opening [] (some name), after)
    | none =>
      match inner.after? ['?'] with
      | none => .ok (.group opening [] none, inner)
      | some flagged =>
        if flagged.atEnd then faultAt .groupUnclosed opening
        else do
          let (items, stop) ← readFlags (flagged.rest.length + 1) [] none flagged
          let after := stop.bump
          if stop.sees ')' then
            if items.isEmpty then faultAt .repetitionMissing inner.here
            else .ok (.flags (after.since opening.start) items, after)
          else .ok (.group opening items none, after)

/-- A decimal number with the blanks around it, and the cursor after it; the number may be missing
or too large. -/
def readDecimal (blanks : Bool) (cursor : Cursor) : Except Problem Nat × Cursor :=
  let first := cursor.dropBlanks
  let (digits, after) := first.takeWhile blanks Char.isDigit
  let part := after.since first.offset
  let finish := (after.takeWhile blanks Text.isBlank).2
  let value := digits.foldl (fun total char => 10 * total + (char.toNat - '0'.toNat)) 0
  if digits.isEmpty then (faultAt .repetitionCountEmpty part, finish)
  else if value < 4294967296 then (.ok value, finish)
  else (faultAt .decimalInvalid part, finish)

/-- The bounds of a counted repetition; the cursor stands at the opening brace. -/
def readBounds (blanks : Bool) (cursor : Cursor) :
    Except Problem ((Nat × Option Nat) × Cursor) := do
  let start := cursor.offset
  let unclosed {α : Type} (at_ : Cursor) : Except Problem α :=
    faultAt .repetitionCountUnclosed (at_.since start)
  let inner := cursor.next blanks
  if inner.atEnd then unclosed inner
  else
    let (least, after) := readDecimal blanks inner
    if after.atEnd then unclosed after
    else
      let (bounds, finish) ← (
        if after.sees ',' then
          let second := after.next blanks
          if second.atEnd then unclosed second
          else if second.sees '\x7d' then do
            let min ← least
            .ok ((min, none), second)
          else do
            let min ← least
            let (greatest, third) := readDecimal blanks second
            let max ← greatest
            .ok ((min, some max), third)
        else do
          let count ← least
          .ok ((count, some count), after))
      if finish.sees '\x7d' then .ok (bounds, finish) else unclosed finish

/-- Whether a repetition can apply to a node. -/
def Ast.isRepeatable : Ast → Bool
  | .empty _ => false
  | .flags _ _ => false
  | _ => true

/-- The last item of the concatenation under way, which a repetition at the cursor applies to. -/
def takeRepeated (state : Reading) : Except Problem (Ast × ItemList) :=
  match state.current.items.getLast? with
  | some node =>
    if node.isRepeatable then
      .ok (node, { state.current with items := state.current.items.dropLast })
    else faultAt .repetitionMissing state.cursor.here
  | none => faultAt .repetitionMissing state.cursor.here

/-- Read a repetition by one of the signs `?`, `*` and `+`. -/
def readSign (state : Reading) (min : Nat) (max : Option Nat) : Except Problem Reading := do
  let (node, list) ← takeRepeated state
  let after := state.cursor.bump
  let finish := if after.sees '?' then after.bump else after
  let whole := finish.since node.part.start
  .ok { state with cursor := finish, current := list.push (.repetition whole node min max) }

/-- Read a repetition with bounds in braces. -/
def readCounted (state : Reading) : Except Problem Reading := do
  let (node, list) ← takeRepeated state
  let ((min, max), closing) ← readBounds state.blanks state.cursor
  let after := closing.next state.blanks
  let finish := if after.sees '?' then after.bump else after
  if max.any (· < min) then
    faultAt .repetitionCountInvalid (finish.since state.cursor.offset)
  else
    let whole := finish.since node.part.start
    .ok { state with cursor := finish, current := list.push (.repetition whole node min max) }

/-- Begin the next branch of an alternation. -/
def readBar (state : Reading) : Reading :=
  let branch := state.current.toNode state.cursor.offset
  let stack := match state.stack with
    | .alternation start branches :: rest => .alternation start (branches ++ [branch]) :: rest
    | stack => .alternation state.current.start [branch] :: stack
  let after := state.cursor.bump
  { state with cursor := after, stack, current := ⟨after.offset, []⟩ }

/-- Begin a group, or set flags. -/
def readOpen (state : Reading) : Except Problem Reading := do
  let (opening, after) ← readOpening state.blanks state.names state.cursor
  match opening with
  | .flags part items =>
    .ok { state with
      cursor := after
      blanks := (FlagItem.state .ignoreBlanks items).getD state.blanks
      current := state.current.push (.flags part items) }
  | .group part items name =>
    .ok {
      cursor := after
      blanks := (FlagItem.state .ignoreBlanks items).getD state.blanks
      names := state.names ++ name.toList
      stack := .group state.current part items state.blanks :: state.stack
      current := ⟨after.offset, []⟩ }

/-- Close a group around a node. -/
def closeGroup (state : Reading) (node : Ast) : List GroupFrame → Except Problem Reading
  | .group outer opening flags blanks :: rest =>
    let after := state.cursor.bump
    let group := Ast.group (after.since opening.start) flags node
    .ok { state with cursor := after, blanks, stack := rest, current := outer.push group }
  | _ => faultAt .groupUnopened state.cursor.charPart

/-- Read a closing parenthesis. -/
def readClose (state : Reading) : Except Problem Reading :=
  let stop := state.cursor.offset
  let node := state.current.toNode stop
  match state.stack with
  | .alternation start branches :: rest =>
    closeGroup state (.alternation ⟨start, stop⟩ (branches ++ [node])) rest
  | stack => closeGroup state node stack

/-- Read the next item; the cursor stands at `char`. -/
def readItem (state : Reading) (char : Char) : Except Problem Reading := do
  let cursor := state.cursor
  match char with
  | '(' => readOpen state
  | ')' => readClose state
  | '|' => .ok (readBar state)
  | '?' => readSign state 0 (some 1)
  | '*' => readSign state 0 none
  | '+' => readSign state 1 none
  | '\x7b' => readCounted state
  | '[' =>
    let (node, after) ← readClass state.blanks cursor
    .ok { state with cursor := after, current := state.current.push node }
  | '\\' =>
    let (node, after) ← readEscape state.blanks cursor
    .ok { state with cursor := after, current := state.current.push node }
  | _ =>
    let part := cursor.charPart
    let node := match char with
      | '.' => Ast.dot part
      | '^' => .assertion part .lineStart
      | '$' => .assertion part .lineEnd
      | _ => .literal ⟨char, false, part⟩
    .ok { state with cursor := cursor.bump, current := state.current.push node }

/-- Close the pattern at its end. -/
def readEnd (state : Reading) : Except Problem Ast :=
  let stop := state.cursor.offset
  let node := state.current.toNode stop
  match state.stack with
  | [] => .ok node
  | .group _ opening _ _ :: _ => faultAt .groupUnclosed opening
  | .alternation start branches :: rest =>
    match rest with
    | .group _ opening _ _ :: _ => faultAt .groupUnclosed opening
    | _ => .ok (.alternation ⟨start, stop⟩ (branches ++ [node]))

/-- Read items until the pattern ends. -/
def readItems : (fuel : Nat) → Reading → Except Problem Ast
  | 0, state => readEnd state
  | fuel + 1, state => do
    let cursor := state.cursor.skip state.blanks
    let state := { state with cursor }
    match cursor.char? with
    | none => readEnd state
    | some char =>
      let next ← readItem state char
      readItems fuel next

/-- The tree of a pattern. -/
def Ast.read (source : String) : Except Problem Ast := do
  let node ← readItems (source.length + 1) ⟨.ofText source, false, [], [], ⟨0, []⟩⟩
  node.checkNesting 0
  .ok node

end Utterance.Pattern

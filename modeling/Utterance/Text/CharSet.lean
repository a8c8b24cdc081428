import Utterance.Text.Split

/-!
# Sets of characters

A set of characters is a list of closed code point ranges in ascending order, no two of which
overlap or touch. Properties of characters are written as text, one range after another in
hexadecimal (`41-5a aa 100-12e/2`, where `/2` keeps every second code point), and the classes of a
pattern are built with the set operations below.
-/
namespace Utterance.Text

/-- A closed range of code points. -/
structure CharRange where
  /-- Least code point. -/
  low : Nat
  /-- Greatest code point. -/
  high : Nat
deriving Repr, DecidableEq, Inhabited

/-- A set of characters as ascending ranges with a gap between any two. -/
structure CharSet where
  /-- Ranges in ascending order. -/
  ranges : List CharRange
deriving Repr, DecidableEq, Inhabited

namespace CharSet

/-- The greatest code point. -/
def lastCodePoint : Nat := 0x10ffff

/-- The set without members. -/
def empty : CharSet := ⟨[]⟩

/-- Every character. -/
def all : CharSet := ⟨[⟨0, lastCodePoint⟩]⟩

/-- Whether ascending ranges hold a code point; the walk stops at the first range above it. -/
def holds (code : Nat) : List CharRange → Bool
  | [] => false
  | range :: rest => if code < range.low then false else code ≤ range.high || holds code rest

/-- Whether a character belongs to the set. -/
def contains (set : CharSet) (char : Char) : Bool := holds char.toNat set.ranges

/-- Join ranges that overlap or touch, given ranges ordered by their lower ends. -/
def join : List CharRange → List CharRange
  | [] => []
  | range :: rest => go range rest
where
  /-- Extend the current range while the next one overlaps or touches it. -/
  go (current : CharRange) : List CharRange → List CharRange
    | [] => [current]
    | next :: rest =>
      if next.low ≤ current.high + 1 then go ⟨current.low, max current.high next.high⟩ rest
      else current :: go next rest

/-- The set of all code points in the ranges, which may overlap and come in any order. -/
def ofRanges (ranges : List CharRange) : CharSet :=
  ⟨join (ranges.mergeSort fun left right => left.low ≤ right.low)⟩

/-- The set of one character. -/
def single (char : Char) : CharSet := ⟨[⟨char.toNat, char.toNat⟩]⟩

/-- Characters between two bounds, both included. -/
def between (low high : Char) : CharSet :=
  if low ≤ high then ⟨[⟨low.toNat, high.toNat⟩]⟩ else empty

/-- Characters in either set. -/
def union (left right : CharSet) : CharSet :=
  match left.ranges, right.ranges with
  | [], _ => right
  | _, [] => left
  | first, second => ofRanges (first ++ second)

/-- Code points from `next` on that lie in none of the ascending ranges. -/
def gaps (next : Nat) : List CharRange → List CharRange
  | [] => if next ≤ lastCodePoint then [⟨next, lastCodePoint⟩] else []
  | range :: rest =>
    if next < range.low then ⟨next, range.low - 1⟩ :: gaps (range.high + 1) rest
    else gaps (range.high + 1) rest

/-- Characters outside the set. -/
def complement (set : CharSet) : CharSet := ⟨gaps 0 set.ranges⟩

/-- Characters in both sets. -/
def intersect (left right : CharSet) : CharSet :=
  (left.complement.union right.complement).complement

/-- Characters in the left set and outside the right one. -/
def difference (left right : CharSet) : CharSet := left.intersect right.complement

/-- Characters in exactly one of the sets. -/
def symmetricDifference (left right : CharSet) : CharSet :=
  (left.union right).difference (left.intersect right)

/-- Characters in any of the sets. -/
def unions (sets : List CharSet) : CharSet := ofRanges (sets.flatMap (·.ranges))

/-- Whether every member is an ASCII character. -/
def isAscii (set : CharSet) : Bool := set.ranges.all (·.high < 128)

/-- Number written by hexadecimal digits; other characters are passed over. -/
def hexValue (digits : List Char) : Nat :=
  digits.foldl (fun total char => (hexDigit? char).elim total (16 * total + ·)) 0

/-- Every second code point of a range, each as a range of its own. -/
def everySecond (low high : Nat) : List CharRange :=
  (List.range ((high - low) / 2 + 1)).map fun step => ⟨low + 2 * step, low + 2 * step⟩

/-- Ranges written by one item of a table: `41`, `41-5a` or `100-12e/2`. -/
def rangesOfItem (item : List Char) : List CharRange :=
  match item.span (· ≠ '-') with
  | (low, []) => [⟨hexValue low, hexValue low⟩]
  | (low, _ :: tail) =>
    match tail.span (· ≠ '/') with
    | (high, []) => [⟨hexValue low, hexValue high⟩]
    | (high, _) => everySecond (hexValue low) (hexValue high)

/-- The items of a table, separated by blanks and line feeds. -/
def tableItems (table : String) : List (List Char) :=
  (splitChars ' ' (table.toList.map fun char => if char = '\n' then ' ' else char)).filter (· ≠ [])

/-- The set written by a table. -/
def ofTable (table : String) : CharSet := ofRanges ((tableItems table).flatMap rangesOfItem)

end CharSet

end Utterance.Text

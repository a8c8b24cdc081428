import Utterance.Text.Width
import Utterance.Unicode.LineBreak

/-!
# Where lines may break

A line may break after spaces and at some places inside a run of characters: after a slash, a bar or
a closing brace, between ideographs, and so on. Marks stay with the character before them, so a line
is a list of clusters, and each place between two clusters is judged by the classes of those around
it. The rules are tried in order; the first that applies decides, and a line may break where none
does.
-/
namespace Utterance.Text

open Utterance.Unicode (Category LineBreak Property)

/-- A character and the marks that belong to it. -/
structure Cluster where
  /-- What the cluster is to the breaking of lines. -/
  kind : LineBreak
  /-- The character. -/
  base : Char
  /-- The marks. -/
  marks : List Char
deriving Repr, Inhabited

namespace Cluster

/-- Opening quotation marks. -/
def initialQuotes : CharSet := Category.initialPunctuation.members

/-- Closing quotation marks. -/
def finalQuotes : CharSet := Category.finalPunctuation.members

/-- Characters of East Asian width. -/
def eastAsianSet : CharSet :=
  (Measure.recentWide.union (.ofTable
    "20a9 302a-302f 3099-309a 3164 ff61-ffbe ffc2-ffc7 ffca-ffcf ffd2-ffd7 ffda-ffdc ffe8-ffee
     16fe4 16ff0-16ff1")).difference (.ofTable "17a4")

/-- Code points kept for pictures. -/
def futurePictures : CharSet :=
  Property.extendedPictographic.members.intersect Category.unassigned.members

/-- The cluster of one character. A mark without a character before it counts as a letter. -/
def ofChar (char : Char) : Cluster :=
  let kind := LineBreak.ofChar char
  ⟨if kind matches .mark | .zeroWidthJoiner then .letter else kind, char, []⟩

/-- Whether marks after the cluster belong to it. -/
def takesMarks (cluster : Cluster) : Bool :=
  !(cluster.kind matches .carriageReturn | .lineFeed | .lineEnd | .space | .zeroWidthSpace)

/-- Whether the cluster ends with a zero width joiner. -/
def isJoined (cluster : Cluster) : Bool :=
  (cluster.marks.getLast?.getD cluster.base).toNat = 0x200d

/-- Whether the cluster is an opening quotation mark. -/
def isInitialQuote (cluster : Cluster) : Bool :=
  cluster.kind = .quotation && initialQuotes.contains cluster.base

/-- Whether the cluster is a closing quotation mark. -/
def isFinalQuote (cluster : Cluster) : Bool :=
  cluster.kind = .quotation && finalQuotes.contains cluster.base

/-- Whether the cluster has East Asian width. -/
def isEastAsian (cluster : Cluster) : Bool := eastAsianSet.contains cluster.base

/-- Whether the cluster begins a syllable in a script that stacks syllables; a dotted circle stands
for any letter. -/
def beginsSyllable (cluster : Cluster) : Bool :=
  cluster.kind matches .syllable | .syllableStart || cluster.base.toNat = 0x25cc

/-- Clusters of the characters after `current`, a cluster that has begun. -/
def divideFrom (current : Cluster) : List Char → List Cluster
  | [] => [current]
  | char :: rest =>
    if LineBreak.ofChar char matches .mark | .zeroWidthJoiner && current.takesMarks then
      divideFrom { current with marks := current.marks ++ [char] } rest
    else current :: divideFrom (ofChar char) rest

/-- Clusters of a line; joined together they are the line. -/
def divide : List Char → List Cluster
  | [] => []
  | char :: rest => divideFrom (ofChar char) rest

end Cluster

/-- A place between two clusters of a line. -/
structure Place where
  /-- The cluster before the place. -/
  last : Cluster
  /-- The clusters before that one, the nearest first. -/
  earlier : List Cluster
  /-- The cluster after the place. -/
  next : Cluster
  /-- The clusters after that one. -/
  later : List Cluster

namespace Place

/-- The clusters before the place and before the spaces that end them, the nearest first. -/
def beforeSpaces (place : Place) : List Cluster :=
  (place.last :: place.earlier).dropWhile (·.kind = .space)

/-- The class of the cluster before the spaces. -/
def kindBeforeSpaces (place : Place) : Option LineBreak := place.beforeSpaces.head?.map (·.kind)

/-- Whether the first of some clusters, if there is one, passes a test. -/
def firstAll (clusters : List Cluster) (test : Cluster → Bool) : Bool := clusters.head?.all test

/-- Whether the first of some clusters exists and passes a test. -/
def firstAny (clusters : List Cluster) (test : Cluster → Bool) : Bool := clusters.head?.any test

/-- A line breaks after its end, and not before it or before a space. -/
def atLineEnd (place : Place) : Option Bool :=
  match place.last.kind, place.next.kind with
  | .lineEnd, _ | .lineFeed, _ => some true
  | .carriageReturn, next => some (next ≠ .lineFeed)
  | _, .lineEnd | _, .lineFeed | _, .carriageReturn => some false
  | _, .space | _, .zeroWidthSpace => some false
  | _, _ => none

/-- A line may break after a space without width, and not after a joiner without width. -/
def atZeroWidth (place : Place) : Option Bool :=
  if place.kindBeforeSpaces = some .zeroWidthSpace then some true
  else if place.last.isJoined then some false
  else none

/-- Glue keeps its neighbours, except across a space or a hyphen before it. -/
def atGlue (place : Place) : Option Bool :=
  match place.last.kind, place.next.kind with
  | .wordJoiner, _ | _, .wordJoiner | .glue, _ => some false
  | .space, .glue | .breakAfter, .glue | .hyphen, .glue => none
  | _, .glue => some false
  | _, _ => none

/-- A line does not break before closing marks, nor after opening ones, even across spaces. -/
def atBrackets (place : Place) : Option Bool :=
  if place.next.kind matches .closing | .closingBracket | .exclamation | .slash then some false
  else if place.kindBeforeSpaces = some .opening then some false
  else none

/-- Whether an opening quotation mark after the class keeps to what follows it. -/
def leadsQuote (kind : LineBreak) : Bool :=
  kind matches .lineEnd | .carriageReturn | .lineFeed | .opening | .quotation | .glue | .space |
    .zeroWidthSpace

/-- Whether a closing quotation mark before the class keeps to what stands before it. -/
def followsQuote (kind : LineBreak) : Bool :=
  kind matches .space | .glue | .wordJoiner | .closing | .quotation | .closingBracket |
    .exclamation | .separator | .slash | .lineEnd | .carriageReturn | .lineFeed | .zeroWidthSpace

/-- A line does not break after an opening quotation mark that follows a space or the like, nor
before a closing one that comes before such, even across spaces. -/
def atSpacedQuotes (place : Place) : Option Bool :=
  let opened := match place.beforeSpaces with
    | quote :: rest => quote.isInitialQuote && firstAll rest (leadsQuote ·.kind)
    | [] => false
  let closed := place.next.isFinalQuote && firstAll place.later (followsQuote ·.kind)
  if opened || closed then some false else none

/-- A line does not break before a separator, unless a space stands before it and a digit after
it. -/
def atSeparator (place : Place) : Option Bool :=
  if place.next.kind ≠ .separator then none
  else some (place.last.kind = .space && firstAny place.later (·.kind = .digit))

/-- Some pairs stay together across spaces; elsewhere a line may break after a space. -/
def atSpaces (place : Place) : Option Bool :=
  match place.kindBeforeSpaces, place.next.kind with
  | some .closing, .nonstarter | some .closingBracket, .nonstarter => some false
  | some .dash, .dash => some false
  | _, _ => if place.last.kind = .space then some true else none

/-- A line does not break beside a quotation mark, unless the mark opens or closes a quotation among
East Asian characters. -/
def atQuotes (place : Place) : Option Bool :=
  let before := place.next.kind = .quotation &&
    (!place.next.isInitialQuote || !place.last.isEastAsian ||
      firstAll place.later fun cluster => !cluster.isEastAsian)
  let after := place.last.kind = .quotation &&
    (!place.last.isFinalQuote || !place.next.isEastAsian ||
      firstAll place.earlier fun cluster => !cluster.isEastAsian)
  if before || after then some false else none

/-- A line may break beside an object, and not after a hyphen that begins a word. -/
def atHyphens (place : Place) : Option Bool :=
  if place.last.kind = .object || place.next.kind = .object then some true
  else
    let hyphen := place.last.kind = .hyphen || place.last.base.toNat = 0x2010
    let first := firstAll place.earlier fun cluster =>
      cluster.kind matches .lineEnd | .carriageReturn | .lineFeed | .space | .zeroWidthSpace |
        .object | .glue
    if hyphen && first && place.next.kind = .letter then some false else none

/-- A line does not break before characters that allow a break after them, nor after those that
allow one before them. -/
def atBreakable (place : Place) : Option Bool :=
  match place.last.kind, place.next.kind with
  | _, .breakAfter | _, .hyphen | _, .nonstarter | .breakBefore, _ => some false
  | last, next =>
    let hyphen := last = .hyphen || (last = .breakAfter && !place.last.isEastAsian)
    if hyphen && next ≠ .hebrew && firstAny place.earlier (·.kind = .hebrew) then some false
    else if last = .slash && next = .hebrew then some false
    else if next = .ellipsis then some false
    else none

/-- Whether a class is one of letters. -/
def isLetter (kind : LineBreak) : Bool := kind matches .letter | .hebrew

/-- Whether a class is one of ideographs and pictures. -/
def isPictorial (kind : LineBreak) : Bool :=
  kind matches .ideograph | .pictureBase | .pictureModifier

/-- Whether a class is one of signs beside numbers. -/
def isSign (kind : LineBreak) : Bool := kind matches .leadingSign | .trailingSign

/-- Letters stay with digits and signs, and ideographs with signs. -/
def atLetters (place : Place) : Option Bool :=
  let last := place.last.kind
  let next := place.next.kind
  if (isLetter last && next = .digit) || (last = .digit && isLetter next) then some false
  else if last = .leadingSign && isPictorial next then some false
  else if isPictorial last && next = .trailingSign then some false
  else if (isSign last && isLetter next) || (isLetter last && isSign next) then some false
  else none

/-- Whether clusters, the nearest first, end with a number, which may hold separators. -/
def endsNumber (clusters : List Cluster) : Bool :=
  firstAny (clusters.dropWhile fun cluster => cluster.kind matches .slash | .separator)
    (·.kind = .digit)

/-- Numbers stay together, with the signs and brackets around them. -/
def atNumbers (place : Place) : Option Bool :=
  let last := place.last.kind
  let next := place.next.kind
  let closed := last matches .closing | .closingBracket && endsNumber place.earlier
  let ended := endsNumber (place.last :: place.earlier)
  let opened := match place.later with
    | first :: second :: _ =>
      first.kind = .digit || (first.kind = .separator && second.kind = .digit)
    | [first] => first.kind = .digit
    | [] => false
  if isSign next && (closed || ended) then some false
  else if isSign last && next = .opening && opened then some false
  else if next = .digit &&
      (ended || last matches .trailingSign | .leadingSign | .hyphen | .separator) then some false
  else none

/-- Whether a class is one of Hangul. -/
def isHangul (kind : LineBreak) : Bool :=
  kind matches .leadingJamo | .vowelJamo | .trailingJamo | .openSyllable | .closedSyllable

/-- The letters of a Hangul syllable stay together, and syllables stay with signs. -/
def atHangul (place : Place) : Option Bool :=
  match place.last.kind, place.next.kind with
  | .leadingJamo, .leadingJamo | .leadingJamo, .vowelJamo => some false
  | .leadingJamo, .openSyllable | .leadingJamo, .closedSyllable => some false
  | .vowelJamo, .vowelJamo | .vowelJamo, .trailingJamo => some false
  | .openSyllable, .vowelJamo | .openSyllable, .trailingJamo => some false
  | .trailingJamo, .trailingJamo | .closedSyllable, .trailingJamo => some false
  | last, next =>
    if isHangul last && next = .trailingSign then some false
    else if last = .leadingSign && isHangul next then some false
    else none

/-- Letters stay together, and so do the parts of a stacked syllable. -/
def atSyllables (place : Place) : Option Bool :=
  let last := place.last
  let next := place.next
  if isLetter last.kind && isLetter next.kind then some false
  else if last.kind = .beforeSyllable && next.beginsSyllable then some false
  else if last.beginsSyllable && next.kind matches .virama | .finalVirama then some false
  else if last.kind = .virama && firstAny place.earlier Cluster.beginsSyllable &&
      (next.kind = .syllable || next.base.toNat = 0x25cc) then some false
  else if last.beginsSyllable && next.beginsSyllable &&
      firstAny place.later (·.kind = .finalVirama) then some false
  else if last.kind = .separator && isLetter next.kind then some false
  else none

/-- Letters and digits stay with narrow brackets beside them. -/
def atNarrowBrackets (place : Place) : Option Bool :=
  let isWord (kind : LineBreak) : Bool := isLetter kind || kind = .digit
  if isWord place.last.kind && place.next.kind = .opening && !place.next.isEastAsian then
    some false
  else if place.last.kind = .closingBracket && !place.last.isEastAsian &&
      isWord place.next.kind then some false
  else none

/-- Regional indicators stay in pairs, and pictures with their modifiers. -/
def atPictures (place : Place) : Option Bool :=
  let flags := ((place.last :: place.earlier).takeWhile (·.kind = .regional)).length
  if place.next.kind = .regional && flags % 2 = 1 then some false
  else if place.next.kind = .pictureModifier &&
      (place.last.kind = .pictureBase || Cluster.futurePictures.contains place.last.base) then
    some false
  else none

/-- The rules in order. -/
def rules : List (Place → Option Bool) :=
  [atLineEnd, atZeroWidth, atGlue, atBrackets, atSpacedQuotes, atSeparator, atSpaces, atQuotes,
    atHyphens, atBreakable, atLetters, atNumbers, atHangul, atSyllables, atNarrowBrackets,
    atPictures]

/-- Whether a line may break at a place. -/
def mayBreak (place : Place) : Bool := (rules.findSome? fun rule => rule place).getD true

end Place

/-- For each character after a cluster, whether a line may break before it. -/
def breaksFrom (last : Cluster) (earlier : List Cluster) : List Cluster → List Bool
  | [] => []
  | next :: later =>
    (Place.mk last earlier next later).mayBreak :: next.marks.map (fun _ => false) ++
      breaksFrom next (last :: earlier) later

/-- For each character of a line, whether the line may break before it. -/
def breaks (line : List Char) : List Bool :=
  match Cluster.divide line with
  | [] => []
  | first :: rest => false :: first.marks.map (fun _ => false) ++ breaksFrom first [] rest

end Utterance.Text

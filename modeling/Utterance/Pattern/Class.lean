import Utterance.Pattern.Ast
import Utterance.Unicode.Lookup

/-!
# Named classes of characters

The sets behind the names that a pattern can use: the short classes, the classes named inside
brackets, and the properties of characters.
-/
namespace Utterance.Pattern

open Utterance.Text (CharSet)
open Utterance.Unicode (Category Property)

/-- ASCII digits. -/
def asciiDigits : CharSet := .between '0' '9'

/-- ASCII letters and digits. -/
def asciiAlnum : CharSet := .unions [asciiDigits, .between 'A' 'Z', .between 'a' 'z']

/-- Digits, blanks and word characters of ASCII. -/
def ShortClass.asciiMembers : ShortClass → CharSet
  | .digit => asciiDigits
  | .space => .unions [.between '\t' '\r', .single ' ']
  | .word => asciiAlnum.union (.single '_')

/-- Word characters: letters, marks, digits, connectors and joiners. -/
def wordSet : CharSet :=
  .unions [Property.alphabeticSet, Category.nonspacingMark.members, Category.spacingMark.members,
    Category.enclosingMark.members, Category.decimalNumber.members,
    Category.connectorPunctuation.members, Property.joinControl.members]

/-- Blank characters. -/
def spaceSet : CharSet := Property.whiteSpace.members

/-- Decimal digits. -/
def digitSet : CharSet := Category.decimalNumber.members

/-- Digits, blanks and word characters of all scripts. -/
def ShortClass.members : ShortClass → CharSet
  | .digit => digitSet
  | .space => spaceSet
  | .word => wordSet

/-- Members of a class named inside brackets. -/
def AsciiClass.members : AsciiClass → CharSet
  | .alnum => asciiAlnum
  | .alpha => .unions [.between 'A' 'Z', .between 'a' 'z']
  | .ascii => .between '\x00' '\x7f'
  | .blank => .unions [.single '\t', .single ' ']
  | .cntrl => .unions [.between '\x00' '\x1f', .single '\x7f']
  | .digit => asciiDigits
  | .graph => .between '!' '~'
  | .lower => .between 'a' 'z'
  | .print => .between ' ' '~'
  | .punct => .unions [.between '!' '/', .between ':' '@', .between '[' (Char.ofNat 0x60),
      .between '\x7b' '~']
  | .space => .unions [.between '\t' '\r', .single ' ']
  | .upper => .between 'A' 'Z'
  | .word => asciiAlnum.union (.single '_')
  | .xdigit => .unions [asciiDigits, .between 'A' 'F', .between 'a' 'f']

/-- The fault of a name that stands for no set of characters. -/
def Fault.ofLookup : Unicode.LookupError → Fault
  | .property => .propertyNotFound
  | .value => .propertyValueNotFound

/-- The characters with a property. -/
def PropertyQuery.members : PropertyQuery → Except Fault CharSet
  | .named name => (Unicode.lookup name).mapError Fault.ofLookup
  | .valued name value _ => (Unicode.lookupValue name value).mapError Fault.ofLookup

end Utterance.Pattern

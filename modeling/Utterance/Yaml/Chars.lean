/-!
# Characters of YAML documents
-/
namespace Utterance.Yaml

/-- Whether a character is a blank. -/
def isBlank (char : Char) : Bool := char = ' ' || char = '\t'

/-- Whether a character ends a line. -/
def isBreak (char : Char) : Bool :=
  char = '\n' || char = '\r' || char.toNat = 0x85 || char.toNat = 0x2028 || char.toNat = 0x2029

/-- The apostrophe, which quotes text in which nothing is escaped but itself. -/
def apostrophe : Char := Char.ofNat 0x27

end Utterance.Yaml

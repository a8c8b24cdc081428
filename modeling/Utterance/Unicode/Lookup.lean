import Utterance.Unicode.Age
import Utterance.Unicode.GraphemeBreak
import Utterance.Unicode.SentenceBreak
import Utterance.Unicode.WordBreak

/-!
# Properties by name

A set of characters is named by a binary property, by a general category, by a script, or by a value
of a property that has several. Further properties of the standard are known by their names only;
nothing can be asked of them.
-/
namespace Utterance.Unicode

open Utterance.Text (CharSet)

/-- Why a name stands for no set of characters. -/
inductive LookupError where
  /-- No property has the name. -/
  | property
  /-- The property has no such value. -/
  | value
deriving Repr, DecidableEq, Inhabited

/-- Properties with more than two values that characters can be asked for. -/
inductive ValuedProperty where
  | category
  | script
  | scriptExtensions
  | age
  | graphemeBreak
  | wordBreak
  | sentenceBreak
deriving Repr, Inhabited

namespace ValuedProperty

/-- Properties with their names. -/
def named : List (List String × ValuedProperty) :=
  [(["General_Category", "gc"], .category), (["Script", "sc"], .script),
    (["Script_Extensions", "scx"], .scriptExtensions), (["Age"], .age),
    (["Grapheme_Cluster_Break", "GCB"], .graphemeBreak), (["Word_Break", "WB"], .wordBreak),
    (["Sentence_Break", "SB"], .sentenceBreak)]

/-- The property with a name. -/
def ofName? (name : String) : Option ValuedProperty :=
  (named.find? fun entry => namedBy name entry.1).map (·.2)

end ValuedProperty

/-- Names of properties of which nothing can be asked. -/
def otherNames : List String :=
  (CharSet.tableItems
    "Bidi_Class bc Bidi_Mirroring_Glyph bmg Bidi_Paired_Bracket bpb Bidi_Paired_Bracket_Type
     bpt Block blk Canonical_Combining_Class ccc Case_Folding cf
     Changes_When_NFKC_Casefolded cwkcf Composition_Exclusion ce Decomposition_Mapping dm
     Decomposition_Type dt East_Asian_Width ea Equivalent_Unified_Ideograph equideo
     Expands_On_NFC xonfc Expands_On_NFD xonfd Expands_On_NFKC xonfkc Expands_On_NFKD xonfkd
     FC_NFKC_Closure fcnfkc Full_Composition_Exclusion compex Hangul_Syllable_Type hst
     Indic_Conjunct_Break incb Indic_Positional_Category inpc Indic_Syllabic_Category insc
     ISO_Comment isc Jamo_Short_Name jsn Joining_Group jg Joining_Type jt kAccountingNumeric
     cjkaccountingnumeric kCompatibilityVariant cjkcompatibilityvariant kEH_Cat kEH_Desc
     kEH_HG kEH_IFAO kEH_JSesh kEH_NoMirror kEH_NoRotate kIICore cjkiicore kIRG_GSource
     cjkirggsource kIRG_HSource cjkirghsource kIRG_JSource cjkirgjsource kIRG_KPSource
     cjkirgkpsource kIRG_KSource cjkirgksource kIRG_MSource cjkirgmsource kIRG_SSource
     cjkirgssource kIRG_TSource cjkirgtsource kIRG_UKSource cjkirguksource kIRG_USource
     cjkirgusource kIRG_VSource cjkirgvsource kOtherNumeric cjkothernumeric kPrimaryNumeric
     cjkprimarynumeric kRSUnicode cjkrsunicode unicoderadicalstroke urs Line_Break lb
     Lowercase_Mapping lc Name na Name_Alias NFC_Quick_Check nfcqc NFD_Quick_Check nfdqc
     NFKC_Casefold nfkccf NFKC_Quick_Check nfkcqc NFKC_Simple_Casefold nfkcscf
     NFKD_Quick_Check nfkdqc Numeric_Type nt Numeric_Value nv Simple_Case_Folding scf sfc
     Simple_Lowercase_Mapping slc Simple_Titlecase_Mapping stc Simple_Uppercase_Mapping suc
     Titlecase_Mapping tc Unicode_1_Name na1 Uppercase_Mapping uc Vertical_Orientation vo").map String.ofList

/-- The binary property with a name. -/
def Property.ofName? (name : String) : Option Property :=
  Property.all.find? fun property => namedBy name property.names

/-- Whether some property has a name. -/
def isPropertyName (name : String) : Bool :=
  (Property.ofName? name).isSome || (ValuedProperty.ofName? name).isSome ||
    namedBy name otherNames

namespace Category

/-- The category with a name. -/
def ofName? (name : String) : Option Category :=
  (Category.unassigned :: Category.assigned).find? fun kind => namedBy name kind.names

/-- Characters of the category, or of the group of categories, with a name. Surrogates are no
characters, so nothing can be asked of them. -/
def members? (name : String) : Option CharSet :=
  match name with
  | "any" => some .all
  | "ascii" => some (.between '\x00' '\x7f')
  | "assigned" => some assignedSet
  | _ =>
    match ofName? name with
    | some .surrogate => none
    | some kind => some kind.members
    | none =>
      (groups.find? fun group => namedBy name group.1).map fun group =>
        .unions (group.2.map Category.members)

end Category

/-- Characters for which a property has the value with a name. -/
def ValuedProperty.members? (property : ValuedProperty) (value : String) : Option CharSet :=
  match property with
  | .category => Category.members? value
  | .script => Script.members? value
  | .scriptExtensions => Script.users? value
  | .age => Age.members? value
  | .graphemeBreak => GraphemeBreak.members? value
  | .wordBreak => WordBreak.members? value
  | .sentenceBreak => SentenceBreak.members? value

/-- Abbreviations of categories that are also abbreviations of other properties. -/
def categoryFirst : List String := ["cf", "sc", "lc"]

/-- The characters that a single name stands for: those of a binary property, of a category or of a
script. -/
def lookup (name : String) : Except LookupError CharSet :=
  let wanted := normalName name
  if !categoryFirst.contains wanted && isPropertyName wanted then
    ((Property.ofName? wanted).map Property.members).elim (.error .property) .ok
  else
    match (Category.members? wanted).orElse fun _ => Script.members? wanted with
    | some set => .ok set
    | none =>
      if Category.ofName? wanted matches some .surrogate || namedBy wanted Script.emptyNames then
        .error .value
      else .error .property

/-- The characters for which a property has a value, both given by name. -/
def lookupValue (name value : String) : Except LookupError CharSet :=
  let wanted := normalName name
  match ValuedProperty.ofName? wanted with
  | some property => (property.members? (normalName value)).elim (.error .value) .ok
  | none => if isPropertyName wanted then .error .value else .error .property

end Utterance.Unicode

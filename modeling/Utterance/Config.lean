import Utterance.Config.JsonText
import Utterance.Config.YamlText
import Utterance.Diagnostic
import Utterance.Options

/-!
# Configuration documents

Options of a parser and of a grammar can be kept in documents next to the settings of the program
that uses them, in JSON or in YAML. Settings that a document leaves out have their defaults. What is
wrong with a document is a diagnostic whose source is the document.
-/
namespace Utterance

namespace Config

/-- Formats of documents. -/
inductive Format where
  | json
  | yaml
deriving Repr, DecidableEq, Inhabited

/-- The name of a format. -/
def Format.name : Format → String
  | .json => "json"
  | .yaml => "yaml"

/-- The settings of a document. -/
def read (schema : Schema) (format : Format) (content : String) : Except Diagnostic Settings :=
  let settings := match format with
    | .json => JsonText.read schema content
    | .yaml => YamlText.read schema content
  settings.mapError (Diagnostic.invalidConfig format.name content)

/-- The record of the options of a parser. -/
def matchSchema : Schema where
  name := "MatchConfig"
  fields :=
    [⟨"skip_budget", .choice [⟨"unlimited", false⟩, ⟨"limited", true⟩]⟩,
      ⟨"choice_order", .choice [⟨"declared", false⟩, ⟨"longest", false⟩]⟩,
      ⟨"mode", .choice [⟨"first", false⟩, ⟨"widest", false⟩]⟩,
      ⟨"max_parses", .count⟩,
      ⟨"max_memo_entries", .count⟩]

/-- The record of the options of a grammar. -/
def grammarSchema : Schema where
  name := "GrammarOptions"
  fields := [⟨"case", .choice [⟨"insensitive", false⟩, ⟨"sensitive", false⟩]⟩]

/-- Whether settings choose a variant of a field. -/
def chooses (settings : Settings) (field variant : String) : Bool :=
  match settings.lookup field with
  | some (.variant name _) => name == variant
  | _ => false

/-- The count that settings state for a field. -/
def countOf (settings : Settings) (field : String) : Option Nat :=
  match settings.lookup field with
  | some (.variant _ count) => count
  | some (.count value) => value
  | none => none

end Config

/-- The options of a parser that settings state. -/
def MatchOptions.ofSettings (settings : Config.Settings) : MatchOptions where
  skipBudget := if Config.chooses settings "skip_budget" "limited" then
      .limited ((Config.countOf settings "skip_budget").getD 0)
    else .unlimited
  choiceOrder := if Config.chooses settings "choice_order" "longest" then .longest else .declared
  mode := if Config.chooses settings "mode" "widest" then .widest else .first
  maxParses := Config.countOf settings "max_parses"
  maxMemoEntries := Config.countOf settings "max_memo_entries"

/-- The options of a parser in a document. -/
def MatchOptions.read (format : Config.Format) (content : String) :
    Except Diagnostic MatchOptions :=
  (Config.read Config.matchSchema format content).map MatchOptions.ofSettings

/-- The case policy that settings state. -/
def CasePolicy.ofSettings (settings : Config.Settings) : CasePolicy :=
  if Config.chooses settings "case" "sensitive" then .sensitive else .insensitive

/-- The case policy in a document. -/
def CasePolicy.read (format : Config.Format) (content : String) : Except Diagnostic CasePolicy :=
  (Config.read Config.grammarSchema format content).map CasePolicy.ofSettings

end Utterance

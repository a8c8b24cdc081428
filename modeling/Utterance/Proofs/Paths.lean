import Mathlib.Data.List.Forall2
import Utterance.Proofs.Numerals

/-!
# Paths and the accesses they stand for

A value is taken apart by accesses: by a name in a map, and by an index in a list or in the list
view of a map. A path writes accesses with dots between them, and a segment of it may be read in two
ways, since digits are a name as well: what a segment means depends on the value it meets. The two
agree (`ParseResult.paths_follow_accesses`). A chain of accesses that leads to a value is followed
by its path, as long as no name holds a dot and no map that is indexed binds the numeral of the
index as a name. And what a path finds is what some chain of accesses leads to, one for each
segment.
-/
namespace Utterance

namespace Text

variable {separator : Char}

/-- Text that has no separator is one part. -/
theorem splitChars_of_not_mem {part : List Char} (free : separator ∉ part) :
    splitChars separator part = [part] := by
  induction part with
  | nil => rfl
  | cons char rest hypothesis =>
    rw [List.mem_cons, not_or] at free
    rw [splitChars, if_neg (Ne.symm free.1), hypothesis free.2]

/-- A part ends at the first separator. -/
theorem splitChars_append {part : List Char} (free : separator ∉ part) (rest : List Char) :
    splitChars separator (part ++ separator :: rest) = part :: splitChars separator rest := by
  induction part with
  | nil => rw [List.nil_append, splitChars, if_pos rfl]
  | cons char part hypothesis =>
    rw [List.mem_cons, not_or] at free
    rw [List.cons_append, splitChars, if_neg (Ne.symm free.1), hypothesis free.2]

/-- Parts that are joined by a separator, which none of them has, are found again. -/
theorem splitChars_intercalate {parts : List (List Char)} (present : parts ≠ [])
    (free : ∀ part ∈ parts, separator ∉ part) :
    splitChars separator ([separator].intercalate parts) = parts := by
  induction parts with
  | nil => exact absurd rfl present
  | cons part rest hypothesis =>
    have first := free part List.mem_cons_self
    cases rest with
    | nil => rw [List.intercalate_singleton, splitChars_of_not_mem first]
    | cons next others =>
      have later := hypothesis (by simp) fun other member =>
        free other (List.mem_cons_of_mem _ member)
      rw [List.intercalate_cons_cons, List.append_assoc, List.singleton_append,
        splitChars_append first, later]

/-- The parts of a text are not none, none of them has a separator, and joined by separators they
are the text. -/
theorem splitChars_spec (chars : List Char) :
    splitChars separator chars ≠ [] ∧ (∀ part ∈ splitChars separator chars, separator ∉ part) ∧
      [separator].intercalate (splitChars separator chars) = chars := by
  induction chars with
  | nil => simp [splitChars]
  | cons char rest hypothesis =>
    have parts := hypothesis
    unfold splitChars
    by_cases divides : char = separator
    · rw [if_pos divides]
      cases split : splitChars separator rest with
      | nil => exact absurd split parts.1
      | cons part others =>
        rw [split] at parts
        refine ⟨by simp, List.forall_mem_cons.2 ⟨by simp, parts.2.1⟩, ?_⟩
        rw [List.intercalate_cons_cons, parts.2.2, divides]
        rfl
    · rw [if_neg divides]
      cases split : splitChars separator rest with
      | nil => exact absurd split parts.1
      | cons part others =>
        rw [split] at parts
        have free := List.forall_mem_cons.1 parts.2.1
        have first : separator ∉ char :: part := by
          rw [List.mem_cons, not_or]
          exact ⟨Ne.symm divides, free.1⟩
        refine ⟨by simp, List.forall_mem_cons.2 ⟨first, free.2⟩, ?_⟩
        rw [← parts.2.2]
        cases others with
        | nil => rfl
        | cons next rest => rfl

end Text

namespace Value

/-- Names that have no dot are the segments of the path that joins them. -/
theorem segments_intercalate {parts : List String} (present : parts ≠ [])
    (free : ∀ part ∈ parts, '.' ∉ part.toList) : segments (".".intercalate parts) = parts := by
  have divided : Text.splitChars '.' (['.'].intercalate (parts.map String.toList)) =
      parts.map String.toList := by
    apply Text.splitChars_intercalate (by simpa using present)
    intro part member
    rcases List.mem_map.1 member with ⟨name, listed, rfl⟩
    exact free name listed
  have dot : ".".toList = ['.'] := rfl
  have same : String.ofList ∘ String.toList = id := funext fun text => String.ofList_toList
  rw [segments, String.toList_intercalate, dot, divided, List.map_map, same, List.map_id]

/-- A path is its segments joined by dots. -/
theorem intercalate_segments (path : String) : ".".intercalate (segments path) = path := by
  have dot : ".".toList = ['.'] := rfl
  have same : String.toList ∘ String.ofList = id := funext fun chars => String.toList_ofList
  have joined : ['.'].intercalate (Text.splitChars '.' path.toList) = path.toList :=
    (Text.splitChars_spec path.toList).2.2
  apply String.toList_inj.1
  rw [String.toList_intercalate, segments, List.map_map, same, List.map_id, dot, joined]

/-- No segment of a path has a dot. -/
theorem dot_not_mem_segments (path : String) : ∀ segment ∈ segments path, '.' ∉ segment.toList := by
  intro segment member
  rcases List.mem_map.1 member with ⟨part, listed, rfl⟩
  rw [String.toList_ofList]
  exact (Text.splitChars_spec path.toList).2.1 part listed

/-- In a list a segment is followed as an index. -/
theorem follow?_list (items : List Value) (segment : String) :
    follow? (.list items) segment = (indexOfText? segment).bind fun index => items[index]? := by
  unfold follow?
  cases indexOfText? segment <;> rfl

/-- In a map a segment is followed as a name if the name is bound, and else as an index. -/
theorem follow?_map (items : List Value) (named : List (String × Value)) (segment : String) :
    follow? (.map items named) segment =
      (named.lookup segment).or ((indexOfText? segment).bind fun index => items[index]?) := by
  unfold follow?
  cases indexOfText? segment with
  | none => simp
  | some index =>
    change (named.lookup segment).orElse (fun _ => items[index]?) = _
    cases named.lookup segment <;> rfl

end Value

/-- One access of a value. -/
inductive Access where
  /-- What a map binds to a name. -/
  | byName (name : String)
  /-- The item of a list, or of the list view of a map, at an index. -/
  | byIndex (index : Nat)
deriving Repr, DecidableEq

namespace Access

/-- What an access of a value gives. -/
def of? (value : Value) : Access → Option Value
  | .byName name => value.get? name
  | .byIndex index => value.at? index

/-- How an access is written in a path. -/
def text : Access → String
  | .byName name => name
  | .byIndex index => toString index

/-- Whether a path can write an access of a value: a name has no dot, and an index is a count whose
numeral is not a name that the value binds. -/
def Plain (value : Value) : Access → Prop
  | .byName name => '.' ∉ name.toList
  | .byIndex index => index ≤ maxCount ∧ value.get? (toString index) = none

/-- Whether a segment of a path stands for an access: it is the name, or it writes the index. -/
def Stands (access : Access) (segment : String) : Prop :=
  match access with
  | .byName name => name = segment
  | .byIndex index => Value.indexOfText? segment = some index

/-- Accesses that lead from one value to another, each of which is allowed for its value. -/
inductive Leads (allowed : Value → Access → Prop) : Value → List Access → Value → Prop where
  /-- No access leads to where it starts. -/
  | here (value : Value) : Leads allowed value [] value
  /-- An access of a value, and others of what it gives. -/
  | step {value next last : Value} {access : Access} {rest : List Access}
      (permitted : allowed value access) (given : access.of? value = some next)
      (further : Leads allowed next rest last) : Leads allowed value (access :: rest) last

variable {value next start last : Value} {access : Access} {accesses : List Access}

/-- The text of an access that a path can write has no dot. -/
theorem Plain.dot_not_mem (plain : access.Plain value) : '.' ∉ access.text.toList := by
  cases access with
  | byName name => exact plain
  | byIndex index => exact Text.not_mem_toString index (by decide)

/-- A segment that writes an access is followed as the access is made. -/
theorem Plain.follow?_text (plain : access.Plain value) (given : access.of? value = some next) :
    value.follow? access.text = some next := by
  cases access with
  | byName name =>
    cases value with
    | map items named =>
      change named.lookup name = some next at given
      show Value.follow? (.map items named) name = some next
      rw [Value.follow?_map, given, Option.some_or]
    | nil | text | number | bool | list => exact absurd given (by simp [of?, Value.get?])
  | byIndex index =>
    have read := Value.indexOfText?_toString plain.1
    have unbound := plain.2
    cases value with
    | list items =>
      change items[index]? = some next at given
      show Value.follow? (.list items) (toString index) = some next
      rw [Value.follow?_list, read, Option.bind_some, given]
    | map items named =>
      change named.lookup (toString index) = none at unbound
      change items[index]? = some next at given
      show Value.follow? (.map items named) (toString index) = some next
      rw [Value.follow?_map, unbound, Option.none_or, read, Option.bind_some, given]
    | nil | text | number | bool => exact absurd given (by simp [of?, Value.at?])

/-- What a segment finds is what some access gives that the segment stands for. -/
theorem exists_of_follow? {segment : String} (found : value.follow? segment = some next) :
    ∃ access : Access, access.Stands segment ∧ access.of? value = some next := by
  cases value with
  | list items =>
    rw [Value.follow?_list] at found
    rcases Option.bind_eq_some_iff.1 found with ⟨index, read, given⟩
    exact ⟨.byIndex index, read, given⟩
  | map items named =>
    rw [Value.follow?_map] at found
    cases bound : named.lookup segment with
    | some held =>
      rw [bound, Option.some_or] at found
      exact ⟨.byName segment, rfl, bound.trans found⟩
    | none =>
      rw [bound, Option.none_or] at found
      rcases Option.bind_eq_some_iff.1 found with ⟨index, read, given⟩
      exact ⟨.byIndex index, read, given⟩
  | nil | text | number | bool => exact absurd found (by simp [Value.follow?])

/-- The accesses that a path can write have no dots in their texts. -/
theorem Leads.dot_not_mem (leads : Leads Plain start accesses last) :
    ∀ access ∈ accesses, '.' ∉ access.text.toList := by
  induction leads with
  | here value => simp
  | step permitted given further hypothesis =>
    exact List.forall_mem_cons.2 ⟨permitted.dot_not_mem, hypothesis⟩

/-- Following the texts of accesses leads to where the accesses lead. -/
theorem Leads.foldl_follow? (leads : Leads Plain start accesses last) :
    (accesses.map text).foldl (fun value segment => value.bind (·.follow? segment)) (some start) =
      some last := by
  induction leads with
  | here value => rfl
  | step permitted given further hypothesis =>
    rw [List.map_cons, List.foldl_cons, Option.bind_some, permitted.follow?_text given, hypothesis]

/-- Nothing is found from where there is no value. -/
theorem foldl_follow?_none (segments : List String) :
    segments.foldl (fun (value : Option Value) segment => value.bind (·.follow? segment)) none =
      none := by
  induction segments with
  | nil => rfl
  | cons segment rest hypothesis => exact hypothesis

/-- Where segments lead, accesses lead for which the segments stand. -/
theorem exists_leads_of_foldl {segments : List String}
    (found : segments.foldl (fun value segment => value.bind (·.follow? segment)) (some start) =
      some last) :
    ∃ accesses, List.Forall₂ Stands accesses segments ∧
      Leads (fun _ _ => True) start accesses last := by
  induction segments generalizing start with
  | nil =>
    obtain rfl := Option.some.inj found
    exact ⟨[], .nil, .here _⟩
  | cons segment rest hypothesis =>
    rw [List.foldl_cons, Option.bind_some] at found
    cases here : start.follow? segment with
    | none =>
      rw [here, foldl_follow?_none] at found
      exact absurd found (by simp)
    | some next =>
      rw [here] at found
      rcases exists_of_follow? here with ⟨access, stands, given⟩
      rcases hypothesis found with ⟨accesses, others, leads⟩
      exact ⟨access :: accesses, .cons stands others, .step True.intro given leads⟩

end Access

/-- A path finds what its accesses lead to. When a name without a dot is bound in a result, and
accesses that a path can write lead on from its value, the path that joins the name and the texts of
the accesses by dots finds where they lead. And whatever a path finds, it is divided by its dots
into a name that is bound and segments, each of which stands for one access, and these accesses lead
from the value of the name to what is found. -/
theorem ParseResult.paths_follow_accesses (result : ParseResult) :
    (∀ (name : String) (accesses : List Access) (start last : Value),
      '.' ∉ name.toList → result.get? name = some start →
      Access.Leads Access.Plain start accesses last →
      result.getPath? (".".intercalate (name :: accesses.map Access.text)) = some last) ∧
    ∀ (path : String) (last : Value), result.getPath? path = some last →
      ∃ (name : String) (segments : List String) (start : Value) (accesses : List Access),
        ".".intercalate (name :: segments) = path ∧
        (∀ segment ∈ name :: segments, '.' ∉ segment.toList) ∧
        result.get? name = some start ∧
        List.Forall₂ Access.Stands accesses segments ∧
        Access.Leads (fun _ _ => True) start accesses last := by
  constructor
  · intro name accesses start last free bound leads
    have texts : ∀ part ∈ name :: accesses.map Access.text, '.' ∉ part.toList := by
      intro part member
      rcases List.mem_cons.1 member with rfl | later
      · exact free
      · rcases List.mem_map.1 later with ⟨access, listed, rfl⟩
        exact leads.dot_not_mem access listed
    rw [getPath?, Value.segments_intercalate (by simp) texts]
    simp only [bound]
    exact leads.foldl_follow?
  · intro path last found
    have joined := Value.intercalate_segments path
    have free := Value.dot_not_mem_segments path
    unfold getPath? at found
    cases divided : Value.segments path with
    | nil =>
      rw [divided] at found
      exact absurd found (by simp)
    | cons name segments =>
      rw [divided] at found joined free
      cases bound : result.get? name with
      | none =>
        simp only [bound, Access.foldl_follow?_none] at found
        exact absurd found (by simp)
      | some start =>
        simp only [bound] at found
        rcases Access.exists_leads_of_foldl found with ⟨accesses, stands, leads⟩
        exact ⟨name, segments, start, accesses, joined, free, bound, stands, leads⟩

/-- What is said to two lights. -/
def lightsResult : ParseResult where
  named := [("lights", .list
    [.map [.text "set", .text "top", .text "red"] [("color", .text "red")],
      .map [.text "set", .text "bottom", .text "blue"] [("color", .text "blue")]])]

/-- The path to the middle word of what is said to the second light, which goes by a name, an index
of a list and an index of a map. -/
theorem ParseResult.path_to_second_light :
    '.' ∉ "lights".toList ∧ (∃ start, lightsResult.get? "lights" = some start ∧
      Access.Leads Access.Plain start [.byIndex 1, .byIndex 1] (.text "bottom")) ∧
    lightsResult.getPath? (".".intercalate ["lights", "1", "1"]) = some (.text "bottom") := by
  have free : '.' ∉ "lights".toList := by decide
  have second : Access.Leads Access.Plain
      (.map [.text "set", .text "bottom", .text "blue"] [("color", .text "blue")]) [.byIndex 1]
      (.text "bottom") :=
    .step ⟨by decide, by decide⟩ rfl (.here _)
  have leads : Access.Leads Access.Plain (.list
      [.map [.text "set", .text "top", .text "red"] [("color", .text "red")],
        .map [.text "set", .text "bottom", .text "blue"] [("color", .text "blue")]])
      [.byIndex 1, .byIndex 1] (.text "bottom") :=
    .step ⟨by decide, rfl⟩ rfl second
  have found := (paths_follow_accesses lightsResult).1 "lights" _ _ _ free rfl leads
  exact ⟨free, ⟨_, rfl, leads⟩, found⟩

end Utterance

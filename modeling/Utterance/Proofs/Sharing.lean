import Mathlib
import Utterance.Proofs.Admission
import Utterance.Proofs.Numerals

/-!
# What a derived name tells

Parts of a declaration that ask for one derived name become one element. The name is a label, which
tells the kind, and a text in brackets, which joins the names of children or the members of a set by
separators. The label is always told by the name, and so are the source of a pattern, the child of
an optional phrase, and the child and the bounds of a repetition. Members that are joined can be
told apart when none holds a bar, and children when their names are closed: no bracket is left open
and no comma stands outside brackets (`Shape.eq_of_name_eq`). The texts of an author may break this,
and then parts with different shapes become one element. When all texts of a declaration are plain,
derived names tell shapes apart (`Declaration.unambiguous_of_plain`).
-/
namespace Utterance

namespace Text

/-- The depth of brackets after a character. There is none when a bracket is closed that is not
open, and when a comma stands outside all brackets. -/
def nest (depth : Nat) (char : Char) : Option Nat :=
  if char = '(' then some (depth + 1)
  else if char = ')' then (if depth = 0 then none else some (depth - 1))
  else if char = ',' ∧ depth = 0 then none
  else some depth

/-- The depth of brackets after a text. -/
def depthAfter? (depth : Nat) (text : String) : Option Nat := text.toList.foldlM nest depth

/-- Whether a text leaves no bracket open and has no comma outside brackets. -/
def Closed (text : String) : Prop := depthAfter? 0 text = some 0

/-- Whether a text leaves no bracket open inside a pair of brackets. -/
def Nested (text : String) : Prop := depthAfter? 1 text = some 1

instance (text : String) : Decidable (Closed text) := inferInstanceAs (Decidable (_ = _))

instance (text : String) : Decidable (Nested text) := inferInstanceAs (Decidable (_ = _))

/-- The depth after two texts. -/
theorem depthAfter?_append (depth : Nat) (left right : String) :
    depthAfter? depth (left ++ right) =
      (depthAfter? depth left).bind fun middle => depthAfter? middle right := by
  rw [depthAfter?, String.toList_append, List.foldlM_append]
  rfl

/-- Texts that leave no bracket open leave none open together. -/
theorem Nested.append {left right : String} (first : Nested left) (second : Nested right) :
    Nested (left ++ right) := by
  have walked : depthAfter? 1 left = some 1 := first
  rw [Nested, depthAfter?_append, walked]
  exact second

/-- Inside brackets a text that is closed changes nothing. -/
theorem Closed.nested {text : String} (closed : Closed text) : Nested text := by
  have deeper : ∀ (chars : List Char) (depth last : Nat), chars.foldlM nest depth = some last →
      chars.foldlM nest (depth + 1) = some (last + 1) := by
    intro chars
    induction chars with
    | nil =>
      intro depth last same
      obtain rfl := Option.some.inj same
      rfl
    | cons char rest hypothesis =>
      intro depth last walked
      rw [List.foldlM_cons] at walked ⊢
      obtain ⟨middle, step, walked⟩ := Option.bind_eq_some_iff.1 walked
      have lifted : nest (depth + 1) char = some (middle + 1) := by
        unfold nest at step ⊢
        grind
      rw [lifted]
      exact hypothesis middle last walked
  exact deeper text.toList 0 0 closed

/-- Texts that leave no bracket open can be joined by one that does not either. -/
theorem nested_intercalate {separator : String} (between : Nested separator) {texts : List String}
    (each : ∀ text ∈ texts, Nested text) : Nested (separator.intercalate texts) := by
  induction texts with
  | nil => rfl
  | cons first rest hypothesis =>
    have later := hypothesis fun text member => each text (List.mem_cons_of_mem _ member)
    have head := each first List.mem_cons_self
    cases rest with
    | nil =>
      rw [String.intercalate_singleton]
      exact head
    | cons second others =>
      rw [String.intercalate_cons_cons]
      exact (head.append between).append later

/-- Digits have no brackets. -/
theorem nested_toString (number : Nat) : Nested (toString number) := by
  have unchanged : ∀ chars : List Char, '(' ∉ chars → ')' ∉ chars →
      chars.foldlM nest 1 = some 1 := by
    intro chars opening closing
    induction chars with
    | nil => rfl
    | cons char rest hypothesis =>
      rw [List.mem_cons, not_or] at opening closing
      have step : nest 1 char = some 1 := by
        simp [nest, Ne.symm opening.1, Ne.symm closing.1]
      rw [List.foldlM_cons, step]
      exact hypothesis opening.2 closing.2
  exact unchanged _ (not_mem_toString number (by decide)) (not_mem_toString number (by decide))

/-- Texts before a mark can be told apart, if none of them goes on with the mark. -/
theorem append_cons_inj {complete : List Char → Prop} {mark : Char}
    {left right following others : List Char}
    (stuck : ∀ text rest, complete text → ¬ complete (text ++ mark :: rest))
    (first : complete left) (second : complete right)
    (same : left ++ mark :: following = right ++ mark :: others) :
    left = right ∧ following = others := by
  rcases List.append_eq_append_iff.1 same with ⟨between, rfl, split⟩ | ⟨between, rfl, split⟩
  · cases between with
    | nil => exact ⟨by simp, (List.cons.inj split).2⟩
    | cons char rest =>
      obtain ⟨rfl, -⟩ := List.cons.inj split
      exact absurd second (stuck left rest first)
  · cases between with
    | nil => exact ⟨by simp, (List.cons.inj split).2.symm⟩
    | cons char rest =>
      obtain ⟨rfl, -⟩ := List.cons.inj split
      exact absurd first (stuck right rest second)

/-- Texts without a mark can be told apart before it. -/
theorem eq_of_append_cons {mark : Char} {left right following others : List Char}
    (first : mark ∉ left) (second : mark ∉ right)
    (same : left ++ mark :: following = right ++ mark :: others) :
    left = right ∧ following = others := by
  have stuck : ∀ text rest : List Char, mark ∉ text → ¬ mark ∉ text ++ mark :: rest :=
    fun _ _ _ absent => absent (by simp)
  exact append_cons_inj stuck first second same

/-- Texts without a mark can be told apart after it. -/
theorem eq_of_cons_append {mark : Char} {left right following others : List Char}
    (first : mark ∉ following) (second : mark ∉ others)
    (same : left ++ mark :: following = right ++ mark :: others) :
    left = right ∧ following = others := by
  have reversed := congrArg List.reverse same
  simp only [List.reverse_append, List.reverse_cons, List.append_assoc, List.singleton_append]
    at reversed
  obtain ⟨after, before⟩ :=
    eq_of_append_cons (by simpa using first) (by simpa using second) reversed
  exact ⟨List.reverse_inj.1 before, List.reverse_inj.1 after⟩

/-- A text that is closed does not go on with a comma. -/
theorem not_closed_of_comma (text rest : List Char) (closed : text.foldlM nest 0 = some 0) :
    ¬ (text ++ ',' :: rest).foldlM nest 0 = some 0 := by
  rw [List.foldlM_append, closed]
  simp [nest]

/-- Texts that are closed can be told apart when commas join them. -/
theorem eq_of_intercalate_comma {left right : List String} (present : left ≠ [])
    (filled : right ≠ []) (first : ∀ text ∈ left, Closed text)
    (second : ∀ text ∈ right, Closed text)
    (same : ", ".intercalate left = ", ".intercalate right) : left = right := by
  have split : ∀ (text next : String) (others : List String),
      (", ".intercalate (text :: next :: others)).toList =
        text.toList ++ ',' :: ' ' :: (", ".intercalate (next :: others)).toList := by
    intro text next others
    rw [String.intercalate_cons_cons, String.toList_append, String.toList_append,
      List.append_assoc]
    rfl
  induction left generalizing right with
  | nil => exact absurd rfl present
  | cons text rest hypothesis =>
    cases right with
    | nil => exact absurd rfl filled
    | cons other others =>
      have here := first text List.mem_cons_self
      have there := second other List.mem_cons_self
      cases rest with
      | nil =>
        rw [String.intercalate_singleton] at same
        cases others with
        | nil =>
          rw [String.intercalate_singleton] at same
          rw [same]
        | cons next others =>
          refine absurd here ?_
          rw [same, Closed, depthAfter?, split]
          exact not_closed_of_comma _ _ there
      | cons following rest =>
        cases others with
        | nil =>
          rw [String.intercalate_singleton] at same
          refine absurd there ?_
          rw [← same, Closed, depthAfter?, split]
          exact not_closed_of_comma _ _ here
        | cons next others =>
          have chars := congrArg String.toList same
          rw [split, split] at chars
          obtain ⟨texts, remaining⟩ := append_cons_inj not_closed_of_comma here there chars
          obtain rfl := String.toList_inj.1 texts
          have tails := String.toList_inj.1 (List.cons.inj remaining).2
          rw [hypothesis (by simp) (by simp)
            (fun text member => first text (List.mem_cons_of_mem _ member))
            (fun text member => second text (List.mem_cons_of_mem _ member)) tails]

/-- Texts that hold no bar can be told apart when bars join them. -/
theorem eq_of_intercalate_bar {left right : List String} (present : left ≠ [])
    (filled : right ≠ []) (first : ∀ text ∈ left, '|' ∉ text.toList)
    (second : ∀ text ∈ right, '|' ∉ text.toList)
    (same : "|".intercalate left = "|".intercalate right) : left = right := by
  have parts : ∀ texts : List String, texts ≠ [] → (∀ text ∈ texts, '|' ∉ text.toList) →
      ("|".intercalate texts).toList.splitOn '|' = texts.map String.toList := by
    intro texts present free
    rw [String.toList_intercalate]
    refine List.splitOn_intercalate '|' ?_ (by simpa using present)
    simpa using free
  have lists := congrArg (·.toList.splitOn '|') same
  simp only [parts left present first, parts right filled second] at lists
  exact List.map_injective_iff.2 (fun _ _ => String.toList_inj.1) lists

end Text

namespace Shape

/-- The name of the kind that a shape is of. -/
def kindName : Shape → String
  | .literals _ => "Literal-Set"
  | .pattern _ => "Pattern"
  | .sequence _ => "Sequence"
  | .choice _ => "Alternation"
  | .optional _ => "Optional"
  | .repetition _ _ _ => "Repetition"

/-- The label of a repetition. -/
def boundsLabel : (min : Nat) → (max : Option Nat) → String
  | 0, none => "ZeroOrMore"
  | 1, none => "OneOrMore"
  | _, _ => "Repeat"

/-- The text of the bounds of a repetition. -/
def boundsText : (min : Nat) → (max : Option Nat) → String
  | 0, none => ""
  | 1, none => ""
  | min, max => ", " ++ toString min ++ ", " ++ max.elim "*" toString

/-- The label of a name, before its brackets. -/
def label : Shape → String
  | .literals _ => "Set"
  | .pattern _ => "Pattern"
  | .sequence _ => "And"
  | .choice _ => "Or"
  | .optional _ => "Optional"
  | .repetition _ min max => boundsLabel min max

/-- The text of a name between its brackets. -/
def content : Shape → String
  | .literals members => "|".intercalate members
  | .pattern source => source
  | .sequence children => ", ".intercalate children
  | .choice children => ", ".intercalate children
  | .optional inner => inner
  | .repetition inner min max => inner ++ boundsText min max

/-- A name is a label and a text in brackets. -/
theorem name_eq (shape : Shape) : shape.name = shape.label ++ "(" ++ shape.content ++ ")" := by
  cases shape with
  | repetition inner min max =>
    match min, max with
    | 0, none | 1, none =>
      simp [name, label, content, Naming.repetition, boundsLabel, boundsText]
    | min + 2, none | min, some max =>
      simp [name, label, content, Naming.repetition, boundsLabel, boundsText, String.append_assoc]
  | _ => rfl

/-- A label holds no bracket. -/
theorem bracket_not_mem_label (shape : Shape) : '(' ∉ shape.label.toList := by
  cases shape with
  | repetition inner min max =>
    simp only [label, boundsLabel]
    split <;> decide
  | _ =>
    simp only [label]
    decide

/-- Whether the parts of a shape can be told apart in its name. -/
def Separable : Shape → Prop
  | .literals members => members ≠ [] ∧ ∀ member ∈ members, '|' ∉ member.toList
  | .sequence children => children ≠ [] ∧ ∀ child ∈ children, Text.Closed child
  | .choice children => children ≠ [] ∧ ∀ child ∈ children, Text.Closed child
  | _ => True

/-- Shapes with one name have one label and one text in brackets. -/
theorem label_eq_of_name_eq {left right : Shape} (same : left.name = right.name) :
    left.label = right.label ∧ left.content = right.content := by
  have chars := congrArg String.toList same
  rw [name_eq, name_eq] at chars
  have split : ∀ shape : Shape, (shape.label ++ "(" ++ shape.content ++ ")").toList =
      shape.label.toList ++ '(' :: (shape.content.toList ++ [')']) := by
    intro shape
    simp only [String.toList_append, List.append_assoc]
    rfl
  rw [split, split] at chars
  obtain ⟨labels, rest⟩ := Text.eq_of_append_cons left.bracket_not_mem_label
    right.bracket_not_mem_label chars
  exact ⟨String.toList_inj.1 labels, String.toList_inj.1 (List.append_cancel_right rest)⟩

/-- The text of bounds is told apart after a text. -/
theorem boundsText_inj {left right : String} {least min : Nat} {most max : Option Nat}
    (same : left ++ (", " ++ toString least ++ ", " ++ most.elim "*" toString) =
      right ++ (", " ++ toString min ++ ", " ++ max.elim "*" toString)) :
    left = right ∧ least = min ∧ most = max := by
  have free : ∀ number : Nat, ' ' ∉ (toString number).toList :=
    fun number => Text.not_mem_toString number (by decide)
  have star : ∀ number : Nat, '*' ∉ (toString number).toList :=
    fun number => Text.not_mem_toString number (by decide)
  have upper : ∀ bound : Option Nat, ' ' ∉ (bound.elim "*" toString).toList := by
    intro bound
    cases bound with
    | none => decide
    | some number => exact free number
  have split : ∀ (text first second : String), (text ++ (", " ++ first ++ ", " ++ second)).toList =
      (((text.toList ++ [',']) ++ ' ' :: first.toList) ++ [',']) ++ ' ' :: second.toList := by
    intro text first second
    simp [String.toList_append]
  have chars := congrArg String.toList same
  rw [split, split] at chars
  obtain ⟨front, tops⟩ := Text.eq_of_cons_append (upper most) (upper max) chars
  obtain ⟨inner, bottoms⟩ :=
    Text.eq_of_cons_append (free least) (free min) (List.append_cancel_right front)
  have digits : ∀ {first second : Nat}, (toString first).toList = (toString second).toList →
      first = second := by
    intro first second same
    rw [Nat.toString_eq_repr, Nat.toString_eq_repr, Nat.toList_repr, Nat.toList_repr] at same
    simpa [Nat.ofDigitChars_ten_toDigits] using congrArg (Nat.ofDigitChars 10 · 0) same
  refine ⟨String.toList_inj.1 (List.append_cancel_right inner), digits bottoms, ?_⟩
  cases most with
  | none =>
    cases max with
    | none => rfl
    | some number => exact absurd (tops ▸ List.mem_cons_self) (star number)
  | some number =>
    cases max with
    | none => exact absurd (tops ▸ List.mem_cons_self) (star number)
    | some other => rw [digits tops]

/-- A repetition without an upper bound that may be left out or not has a label of its own, and the
text of any other holds its bounds. -/
theorem bounds_cases (min : Nat) (max : Option Nat) :
    (min = 0 ∧ max = none) ∨ (min = 1 ∧ max = none) ∨ (boundsLabel min max = "Repeat" ∧
      boundsText min max = ", " ++ toString min ++ ", " ++ max.elim "*" toString) := by
  match min, max with
  | 0, none => simp
  | 1, none => simp
  | min + 2, none => exact Or.inr (Or.inr ⟨rfl, rfl⟩)
  | min, some max => simp [boundsLabel, boundsText]

/-- A repetition is told by its label and its text in brackets. -/
theorem repetition_inj {left right : String} {least min : Nat} {most max : Option Nat}
    (labels : boundsLabel least most = boundsLabel min max)
    (contents : left ++ boundsText least most = right ++ boundsText min max) :
    left = right ∧ least = min ∧ most = max := by
  rcases bounds_cases least most with ⟨rfl, rfl⟩ | ⟨rfl, rfl⟩ | ⟨many, text⟩ <;>
    rcases bounds_cases min max with ⟨rfl, rfl⟩ | ⟨rfl, rfl⟩ | ⟨more, other⟩
  · simpa [boundsText] using contents
  · exact absurd labels (by decide)
  · rw [more] at labels
    exact absurd labels (by decide)
  · exact absurd labels (by decide)
  · simpa [boundsText] using contents
  · rw [more] at labels
    exact absurd labels (by decide)
  · rw [many] at labels
    exact absurd labels (by decide)
  · rw [many] at labels
    exact absurd labels (by decide)
  · rw [text, other] at contents
    exact boundsText_inj contents

/-- Shapes with one label are of one kind. -/
theorem kindName_eq_of_label_eq {left right : Shape} (same : left.label = right.label) :
    left.kindName = right.kindName := by
  have apart : ∀ min max, boundsLabel min max ≠ "Set" ∧ boundsLabel min max ≠ "Pattern" ∧
      boundsLabel min max ≠ "And" ∧ boundsLabel min max ≠ "Or" ∧
      boundsLabel min max ≠ "Optional" := by
    intro min max
    rcases bounds_cases min max with ⟨rfl, rfl⟩ | ⟨rfl, rfl⟩ | ⟨many, -⟩
    · decide
    · decide
    · rw [many]
      decide
  cases left <;> cases right <;> simp_all [label, eq_comm, kindName]

/-- Shapes with one name are one, if their parts can be told apart. -/
theorem eq_of_name_eq {left right : Shape} (same : left.name = right.name)
    (first : left.Separable) (second : right.Separable) : left = right := by
  obtain ⟨labels, contents⟩ := label_eq_of_name_eq same
  have kinds := kindName_eq_of_label_eq labels
  cases left with
  | literals members =>
    cases right with
    | literals others =>
      exact congrArg _ (Text.eq_of_intercalate_bar first.1 second.1 first.2 second.2 contents)
    | _ => exact absurd kinds (by simp [kindName])
  | pattern source =>
    cases right with
    | pattern other => exact congrArg _ contents
    | _ => exact absurd kinds (by simp [kindName])
  | sequence children =>
    cases right with
    | sequence others =>
      exact congrArg _ (Text.eq_of_intercalate_comma first.1 second.1 first.2 second.2 contents)
    | _ => exact absurd kinds (by simp [kindName])
  | choice children =>
    cases right with
    | choice others =>
      exact congrArg _ (Text.eq_of_intercalate_comma first.1 second.1 first.2 second.2 contents)
    | _ => exact absurd kinds (by simp [kindName])
  | optional inner =>
    cases right with
    | optional other => exact congrArg _ contents
    | _ => exact absurd kinds (by simp [kindName])
  | repetition inner min max =>
    cases right with
    | repetition other least most =>
      obtain ⟨rfl, rfl, rfl⟩ := repetition_inj labels contents
      rfl
    | _ => exact absurd kinds (by simp [kindName])

/-- A name is closed when the text between its brackets leaves none open. -/
theorem closed_name (shape : Shape) (nested : Text.Nested shape.content) :
    Text.Closed shape.name := by
  have front : Text.depthAfter? 0 shape.label = some 0 := by
    cases shape with
    | repetition inner min max =>
      simp only [label, boundsLabel]
      split <;> decide
    | _ =>
      simp only [label]
      decide
  have inside : Text.depthAfter? 1 shape.content = some 1 := nested
  rw [Text.Closed, name_eq, Text.depthAfter?_append, Text.depthAfter?_append,
    Text.depthAfter?_append, front]
  change ((Text.depthAfter? 1 shape.content).bind _) = _
  rw [inside]
  rfl

/-- Names that are closed can be joined. -/
theorem nested_children {children : List String} (each : ∀ child ∈ children, Text.Closed child) :
    Text.Nested (", ".intercalate children) :=
  Text.nested_intercalate (by decide) fun child member => (each child member).nested

/-- The text of a repetition leaves no bracket open when the name of its child leaves none. -/
theorem nested_repetition {inner : String} (closed : Text.Closed inner) (min : Nat)
    (max : Option Nat) : Text.Nested (inner ++ boundsText min max) := by
  rcases bounds_cases min max with ⟨rfl, rfl⟩ | ⟨rfl, rfl⟩ | ⟨-, text⟩
  · exact closed.nested.append (by decide)
  · exact closed.nested.append (by decide)
  · have comma : Text.Nested ", " := by decide
    have upper : Text.Nested (max.elim "*" toString) := by
      cases max with
      | none => decide
      | some most => exact Text.nested_toString most
    rw [text]
    exact closed.nested.append
      (((comma.append (Text.nested_toString min)).append comma).append upper)

end Shape

/-- Whether the texts that an author gives for a request keep names apart: a given name is closed,
members hold no bar, and neither members nor the source of a pattern leave a bracket open. -/
def Request.Plain (request : Request) : Prop :=
  (request.explicit = true → Text.Closed request.name) ∧
    match request.shape with
    | .literals members => ∀ member ∈ members, '|' ∉ member.toList ∧ Text.Nested member
    | .pattern source => Text.Nested source
    | _ => True

/-- Whether all texts of a declaration keep names apart. -/
def Declaration.Plain (declaration : Declaration) : Prop :=
  ∀ request ∈ declaration.requests, request.Plain

namespace Expr

mutual

/-- When the texts of an expression keep names apart, its name is closed, and the parts of each of
its shapes can be told apart. -/
theorem separable_of_plain {case : CasePolicy} : ∀ (expr : Expr) (given : Option String),
    expr.Admissible case → (∀ used ∈ expr.references, Text.Closed used) →
    (∀ request ∈ expr.requests case given, request.Plain) →
    Text.Closed (expr.name case) ∧ ∀ request ∈ expr.requests case given, request.shape.Separable
  | .literals members, given, admissible, closed, plain => by
    rw [requests] at plain ⊢
    have texts := (plain _ List.mem_cons_self).2
    have filled := (LiteralSet.isEmpty_ofMembers_eq_false_iff case members).2 admissible
    refine ⟨Shape.closed_name (.literals _)
      (Text.nested_intercalate (by decide) fun member stored => (texts member stored).2), ?_⟩
    simp only [List.forall_mem_singleton]
    exact ⟨by simpa [LiteralSet.isEmpty] using filled,
      fun member stored => (texts member stored).1⟩
  | .pattern source, given, admissible, closed, plain => by
    rw [requests] at plain ⊢
    have text := (plain _ List.mem_cons_self).2
    exact ⟨Shape.closed_name (.pattern source) text, by simp [Shape.request, Shape.Separable]⟩
  | .sequence children, given, admissible, closed, plain => by
    rw [requests, List.forall_mem_append] at plain ⊢
    obtain ⟨names, inside⟩ := separable_of_plain_all children admissible.2 closed plain.1
    refine ⟨Shape.closed_name (.sequence _) (Shape.nested_children names), inside, ?_⟩
    simp only [List.forall_mem_singleton]
    exact ⟨by simpa [names_eq_map] using admissible.1, names⟩
  | .choice children, given, admissible, closed, plain => by
    rw [requests, List.forall_mem_append] at plain ⊢
    obtain ⟨names, inside⟩ := separable_of_plain_all children admissible.2 closed plain.1
    refine ⟨Shape.closed_name (.choice _) (Shape.nested_children names), inside, ?_⟩
    simp only [List.forall_mem_singleton]
    exact ⟨by simpa [names_eq_map] using admissible.1, names⟩
  | .optional inner, given, admissible, closed, plain => by
    rw [requests, List.forall_mem_append] at plain ⊢
    obtain ⟨name, inside⟩ := separable_of_plain inner none admissible closed plain.1
    exact ⟨Shape.closed_name (.optional _) name.nested, inside,
      by simp [Shape.request, Shape.Separable]⟩
  | .repetition inner min max, given, admissible, closed, plain => by
    rw [requests, List.forall_mem_append] at plain ⊢
    obtain ⟨name, inside⟩ := separable_of_plain inner none admissible.2 closed plain.1
    exact ⟨Shape.closed_name (.repetition _ min max) (Shape.nested_repetition name min max),
      inside, by simp [Shape.request, Shape.Separable]⟩
  | .rule target, given, admissible, closed, plain => by
    have name := closed target List.mem_cons_self
    refine ⟨name, ?_⟩
    cases given with
    | none => simp [requests]
    | some outer => simpa [requests, Shape.request, Shape.Separable] using name
  | .named inside inner, none, admissible, closed, plain => by
    rw [requests] at plain ⊢
    obtain ⟨request, asked, named, explicit⟩ := exists_mem_requests case inner inside
    obtain ⟨-, shapes⟩ := separable_of_plain inner (some inside) admissible closed plain
    exact ⟨named ▸ (plain request asked).1 explicit, shapes⟩
  | .named inside inner, some outer, admissible, closed, plain => by
    rw [requests, List.forall_mem_append] at plain ⊢
    obtain ⟨request, asked, named, explicit⟩ := exists_mem_requests case inner inside
    obtain ⟨-, shapes⟩ := separable_of_plain inner (some inside) admissible closed plain.1
    have name : Text.Closed inside := named ▸ (plain.1 request asked).1 explicit
    exact ⟨name, shapes, by simpa [Shape.request, Shape.Separable] using name⟩

/-- When the texts of expressions keep names apart, so do their names and shapes. -/
theorem separable_of_plain_all {case : CasePolicy} : ∀ exprs : List Expr,
    AdmissibleAll case exprs → (∀ used ∈ referencesOfAll exprs, Text.Closed used) →
    (∀ request ∈ requestsOfAll case exprs, request.Plain) →
    (∀ name ∈ names case exprs, Text.Closed name) ∧
      ∀ request ∈ requestsOfAll case exprs, request.shape.Separable
  | [], admissible, closed, plain => by simp [names, requestsOfAll]
  | child :: rest, admissible, closed, plain => by
    rw [referencesOfAll, List.forall_mem_append] at closed
    rw [requestsOfAll, List.forall_mem_append] at plain
    obtain ⟨name, first⟩ := separable_of_plain child none admissible.1 closed.1 plain.1
    obtain ⟨others, later⟩ := separable_of_plain_all rest admissible.2 closed.2 plain.2
    exact ⟨List.forall_mem_cons.2 ⟨name, others⟩, List.forall_mem_append.2 ⟨first, later⟩⟩

end

mutual

/-- What holds of every request for a shape holds of the requests of an expression. -/
theorem forall_requests {case : CasePolicy} {property : Request → Prop}
    (each : ∀ (shape : Shape) (given : Option String), property (shape.request given)) :
    ∀ (expr : Expr) (given : Option String), ∀ request ∈ expr.requests case given, property request
  | .literals members, given => by simpa [requests] using each _ given
  | .pattern source, given => by simpa [requests] using each _ given
  | .sequence children, given => by
    rw [requests, List.forall_mem_append, List.forall_mem_singleton]
    exact ⟨forall_requestsOfAll each children, each _ given⟩
  | .choice children, given => by
    rw [requests, List.forall_mem_append, List.forall_mem_singleton]
    exact ⟨forall_requestsOfAll each children, each _ given⟩
  | .optional inner, given => by
    rw [requests, List.forall_mem_append, List.forall_mem_singleton]
    exact ⟨forall_requests each inner none, each _ given⟩
  | .repetition inner min max, given => by
    rw [requests, List.forall_mem_append, List.forall_mem_singleton]
    exact ⟨forall_requests each inner none, each _ given⟩
  | .rule target, none => by simp [requests]
  | .rule target, some outer => by simpa [requests] using each _ (some outer)
  | .named inside inner, none => forall_requests each inner (some inside)
  | .named inside inner, some outer => by
    rw [requests, List.forall_mem_append, List.forall_mem_singleton]
    exact ⟨forall_requests each inner (some inside), each _ (some outer)⟩

/-- What holds of every request for a shape holds of the requests of expressions. -/
theorem forall_requestsOfAll {case : CasePolicy} {property : Request → Prop}
    (each : ∀ (shape : Shape) (given : Option String), property (shape.request given)) :
    ∀ exprs : List Expr, ∀ request ∈ requestsOfAll case exprs, property request
  | [] => by simp [requestsOfAll]
  | child :: rest => by
    rw [requestsOfAll, List.forall_mem_append]
    exact ⟨forall_requests each child none, forall_requestsOfAll each rest⟩

end

end Expr

namespace Declaration

variable {declaration : Declaration} {grammar : Grammar}

/-- A name that is not given is derived from the shape. -/
theorem name_eq_of_derived {request : Request} (asked : request ∈ declaration.requests)
    (derived : request.explicit = false) : request.name = request.shape.name := by
  have each : ∀ (shape : Shape) (given : Option String),
      (shape.request given).explicit = false → (shape.request given).name = shape.name := by
    intro shape given derived
    cases given with
    | none => rfl
    | some name => exact absurd derived (by simp [Shape.request])
  obtain ⟨definition, -, asked⟩ := List.mem_flatMap.1 asked
  have all : ∀ request ∈ definition.requests declaration.case,
      request.explicit = false → request.name = request.shape.name :=
    definition.expr.forall_requests each (some definition.name)
  exact all request asked derived

/-- When all texts of a declaration are plain, the parts of every shape can be told apart. -/
theorem Builds.separable_of_plain {state : Lowering} (builds : Builds declaration state grammar)
    (plain : declaration.Plain) : ∀ request ∈ declaration.requests, request.shape.Separable := by
  obtain ⟨-, -, admissible⟩ := builds.records
  have closed : ∀ name ∈ declaration.definitions.map (·.name), Text.Closed name := by
    intro name listed
    obtain ⟨definition, given, rfl⟩ := List.mem_map.1 listed
    obtain ⟨request, asked, named, explicit⟩ :=
      definition.expr.exists_mem_requests declaration.case definition.name
    exact named ▸ (plain request (List.mem_flatMap.2 ⟨definition, given, asked⟩)).1 explicit
  intro request listed
  obtain ⟨definition, given, asked⟩ := List.mem_flatMap.1 listed
  refine (definition.expr.separable_of_plain (some definition.name) (admissible definition given)
    (fun used uses => closed used (builds.references definition given used uses)) ?_).2 request
      asked
  exact fun other member => plain other (List.mem_flatMap.2 ⟨definition, given, member⟩)

/-- A build with plain texts asks for no derived name with two shapes. -/
theorem unambiguous_of_plain (built : declaration.build = .ok grammar) (plain : declaration.Plain) :
    declaration.Unambiguous := by
  obtain ⟨state, builds⟩ := build_eq_ok_iff.1 built
  have separable := builds.separable_of_plain plain
  intro left asked right again derived free same
  rw [name_eq_of_derived asked derived, name_eq_of_derived again free] at same
  exact Shape.eq_of_name_eq same (separable left asked) (separable right again)

/-- The element that is found for a request has the name of the request. -/
theorem Builds.name_inj {state : Lowering} (builds : Builds declaration state grammar)
    {left right : Request} (asked : left ∈ declaration.requests)
    (shared : grammar.lookup? left.name = grammar.lookup? right.name) : left.name = right.name := by
  obtain ⟨records, -, -⟩ := builds.records
  obtain ⟨element, member, named, -⟩ := records.answered left asked
  obtain ⟨id, stands⟩ := List.mem_iff_getElem?.1 member
  have found := elementIndex?_of_getElem? records.distinct stands
  rw [Grammar.lookup?, Grammar.lookup?, builds.elements, ← named, found] at shared
  obtain ⟨other, again, same⟩ := exists_of_elementIndex? shared.symm
  rw [stands] at again
  rw [← named, ← same, Option.some.inj again]

/-- Requests for derived names that one element answers are for one kind. They are for one shape if
the parts of both can be told apart in the name, and always when all texts of the declaration are
plain. -/
theorem shared_requests_agree (built : declaration.build = .ok grammar) {left right : Request}
    (asked : left ∈ declaration.requests) (again : right ∈ declaration.requests)
    (derived : left.explicit = false) (free : right.explicit = false)
    (shared : grammar.lookup? left.name = grammar.lookup? right.name) :
    left.shape.kindName = right.shape.kindName ∧
      (left.shape.Separable → right.shape.Separable → left.shape = right.shape) ∧
      (declaration.Plain → left.shape = right.shape) := by
  obtain ⟨state, builds⟩ := build_eq_ok_iff.1 built
  have same := builds.name_inj asked shared
  refine ⟨?_, ?_, fun plain => ?_⟩
  · rw [name_eq_of_derived asked derived, name_eq_of_derived again free] at same
    exact Shape.kindName_eq_of_label_eq (Shape.label_eq_of_name_eq same).1
  · rw [name_eq_of_derived asked derived, name_eq_of_derived again free] at same
    exact Shape.eq_of_name_eq same
  · exact unambiguous_of_plain built plain left asked right again derived free same

/-- One set of words, written in two ways. -/
def pairDeclaration : Declaration where
  definitions := [⟨"GOAL", .sequence [.literals ["off", "on now"], .literals [" on  now", "off"]]⟩]

/-- Sets that are brought to one form have one element. -/
theorem rewritten_set_is_shared : ∃ grammar, pairDeclaration.build = .ok grammar ∧
    ∃ left ∈ pairDeclaration.requests, ∃ right ∈ pairDeclaration.requests,
      left.explicit = false ∧ right.explicit = false ∧
      grammar.lookup? left.name = grammar.lookup? right.name ∧
      left.shape = .literals ["off", "on now"] ∧ left.shape = right.shape := by
  obtain ⟨grammar, built, -⟩ : ∃ grammar, pairDeclaration.build = .ok grammar ∧
      grammar.size = 2 := exists_built (by cbv)
  have requests : pairDeclaration.requests =
      [⟨"Set(off|on now)", false, .literals ["off", "on now"]⟩,
        ⟨"Set(off|on now)", false, .literals ["off", "on now"]⟩,
        ⟨"GOAL", true, .sequence ["Set(off|on now)", "Set(off|on now)"]⟩] := by cbv
  have first : ⟨"Set(off|on now)", false, .literals ["off", "on now"]⟩ ∈
      pairDeclaration.requests := by simp [requests]
  have apart : (Shape.literals ["off", "on now"]).Separable := ⟨by decide, by decide⟩
  exact ⟨grammar, built, _, first, _, first, rfl, rfl, rfl, rfl,
    (shared_requests_agree built first first rfl rfl rfl).2.1 apart apart⟩

/-- A set with one member that holds a bar, and a set with the two words around the bar. -/
def barDeclaration : Declaration where
  definitions := [⟨"GOAL", .sequence [.literals ["a|b"], .literals ["a", "b"]]⟩]

/-- Two sets with different members have one element: the second set is lost, and its place in the
sequence is taken by the first. -/
theorem members_are_lost : ∃ grammar, barDeclaration.build = .ok grammar ∧
    (∃ left ∈ barDeclaration.requests, ∃ right ∈ barDeclaration.requests,
      left.explicit = false ∧ right.explicit = false ∧
      grammar.lookup? left.name = grammar.lookup? right.name ∧
      left.shape = .literals ["a|b"] ∧ right.shape = .literals ["a", "b"]) ∧
    grammar.elements.map (·.kind) =
      [.literals ⟨["a|b"], [["a|b"]]⟩, .sequence [0, 0]] := by
  obtain ⟨grammar, built, kinds⟩ : ∃ grammar, barDeclaration.build = .ok grammar ∧
      grammar.elements.map (·.kind) = [.literals ⟨["a|b"], [["a|b"]]⟩, .sequence [0, 0]] :=
    exists_built (by cbv)
  have requests : barDeclaration.requests =
      [⟨"Set(a|b)", false, .literals ["a|b"]⟩, ⟨"Set(a|b)", false, .literals ["a", "b"]⟩,
        ⟨"GOAL", true, .sequence ["Set(a|b)", "Set(a|b)"]⟩] := by cbv
  refine ⟨grammar, built, ⟨⟨"Set(a|b)", false, .literals ["a|b"]⟩, by simp [requests],
    ⟨"Set(a|b)", false, .literals ["a", "b"]⟩, by simp [requests], rfl, rfl, rfl, rfl, rfl⟩, kinds⟩

end Declaration

end Utterance

import Utterance.Proofs.Relaxation

/-!
# Parses one by one

`Parses` keeps a place in the list of roots and counts the calls it may still answer. What it hands
out is told by the parses that are left: a call answers with the first of them and leaves the others
(`Parses.fst_next`, `Parses.rest_next`), so the call after any number of calls answers with the
parse at that place (`Parses.fst_next_after`).

Parsing a text succeeds when the start symbol has a match and the bound on parses is not zero, and
then answers with the first match (`Parser.parse_answers_first_root`). A bound of zero hides every
match (`Parser.bound_of_zero_hides_root`).
-/
namespace Utterance

namespace Parses

/-- What moving on answers and leaves: the first root that is left is handed out, if there is one,
and nothing but the cursor changes. -/
structure Advances (before : Parses) (answer : Option Outcome) (after : Parses) : Prop where
  /-- The answer is the outcome of the first root that is left. -/
  answer : answer = (before.roots.drop before.cursor).head?.map before.outcome
  /-- The other roots are left. -/
  left : after.roots.drop after.cursor = (before.roots.drop before.cursor).tail
  /-- Roots have the same outcomes. -/
  outcome : after.outcome = before.outcome
  /-- As many calls may be answered. -/
  remaining : after.remaining = before.remaining

variable (parses : Parses)

/-- Moving on hands out the root at the cursor. -/
theorem advances_advance : Advances parses parses.advance.1 parses.advance.2 := by
  unfold advance
  cases found : parses.roots[parses.cursor]? with
  | none =>
    have nothing := List.drop_eq_nil_of_le (List.getElem?_eq_none_iff.1 found)
    exact ⟨by rw [nothing]; rfl, by rw [nothing]; rfl, rfl, rfl⟩
  | some root =>
    obtain ⟨less, rfl⟩ := List.getElem?_eq_some_iff.1 found
    have split := List.drop_eq_getElem_cons less
    exact ⟨by rw [split]; rfl, by rw [split]; rfl, rfl, rfl⟩

/-- A call answers with the first of the parses that are left. -/
theorem fst_next : parses.next.1 = parses.rest.head? := by
  unfold next rest
  match bound : parses.remaining with
  | none => rw [parses.advances_advance.answer, List.head?_map]
  | some 0 => rfl
  | some (count + 1) =>
    rw [(advances_advance _).answer, List.head?_map, List.head?_take, if_neg (Nat.succ_ne_zero _)]
    rfl

/-- A call leaves the others of the parses that were left. -/
theorem rest_next : parses.next.2.rest = parses.rest.tail := by
  unfold next
  match bound : parses.remaining with
  | none =>
    have advances := parses.advances_advance
    simp only [rest, advances.remaining, advances.left, advances.outcome, bound, List.map_tail]
  | some 0 => simp [rest, bound]
  | some (count + 1) =>
    have advances := advances_advance { parses with remaining := some count }
    simp only [rest, advances.remaining, advances.left, advances.outcome, bound, ← List.map_tail]
    cases parses.roots.drop parses.cursor with
    | nil => simp
    | cons first others => rfl

/-- Some calls leave the parses after as many as there were calls. -/
theorem rest_after (calls : Nat) : (parses.after calls).rest = parses.rest.drop calls := by
  induction calls generalizing parses with
  | zero => rfl
  | succ calls hypothesis => rw [after, hypothesis, rest_next, List.drop_tail]

/-- The call after some calls answers with the parse at that place. -/
theorem fst_next_after (calls : Nat) : (parses.after calls).next.1 = parses.rest[calls]? := by
  rw [fst_next, rest_after, List.head?_drop]

end Parses

namespace Parser

variable (parser : Parser) (tokens : List Token)

/-- The parser without a bound on parses. -/
def unbounded : Parser := { parser with options := { parser.options with maxParses := none } }

/-- At first all parses are left. -/
theorem rest_parses : (parser.parses tokens).rest = parser.parseAllTokens tokens := by
  unfold Parses.rest parses parseAllTokens Grammar.trees
  cases parser.options.maxParses with
  | none => simp [Parses.outcome]
  | some count => simp [Parses.outcome, ← List.map_take]

/-- The bound on parses only cuts the parses off. -/
theorem parseAllTokens_eq_take : parser.parseAllTokens tokens =
    match parser.options.maxParses with
    | some count => (parser.unbounded.parseAllTokens tokens).take count
    | none => parser.unbounded.parseAllTokens tokens := by
  unfold parseAllTokens
  cases parser.options.maxParses with
  | none => rfl
  | some count => exact List.map_take

/-- Without a bound there is a parse for each root. -/
theorem unbounded_parseAllTokens : parser.unbounded.parseAllTokens tokens =
    (parser.grammar.roots parser.options tokens).map (parser.parses tokens).outcome := by
  rw [← rest_parses]
  rfl

/-- The preferred parse is that of the first root, unless no parses are asked for. -/
theorem parseTokens_eq_ite : parser.parseTokens tokens =
    if parser.options.maxParses = some 0 then none
    else (parser.grammar.roots parser.options tokens).head?.map (parser.parses tokens).outcome := by
  split
  · rename_i bound
    rw [parseTokens, parseAllTokens_eq_take, bound]
    rfl
  · rename_i asked
    exact parser.parseTokens_eq_map_roots asked tokens

/-- A text is parsed, or there is a diagnostic that it cannot be. -/
theorem tryParse_eq (text : String) : parser.tryParse text =
    (parser.parse text).elim
      (.error (.noParse parser.grammar.goalName text (parser.tokenize text).length)) .ok := by
  rw [tryParse, parse]
  cases parser.parseTokens (parser.tokenize text) <;> rfl

/-- Parsing a text fails when the start symbol has no match in its tokens or no parses are asked
for, and then the diagnostic says that there is no match. Otherwise it answers with the first match.
All parses are those of the matches in order, up to the bound, and calls that ask for them one by
one are answered with them in turn and with none after the last. -/
theorem parse_answers_first_root (text : String) :
    (parser.parse text = none ↔
      parser.grammar.roots parser.options (parser.tokenize text) = [] ∨
        parser.options.maxParses = some 0) ∧
    (parser.tryParse text =
        .error (.noParse parser.grammar.goalName text (parser.tokenize text).length) ↔
      parser.grammar.roots parser.options (parser.tokenize text) = [] ∨
        parser.options.maxParses = some 0) ∧
    (parser.parse text =
      if parser.options.maxParses = some 0 then none
      else (parser.grammar.roots parser.options (parser.tokenize text)).head?.map
        (parser.parses (parser.tokenize text)).outcome) ∧
    (∀ outcome, parser.tryParse text = .ok outcome ↔ parser.parse text = some outcome) ∧
    parser.unbounded.parseAll text =
      (parser.grammar.roots parser.options (parser.tokenize text)).map
        (parser.parses (parser.tokenize text)).outcome ∧
    parser.parseAll text =
      (match parser.options.maxParses with
      | some count => (parser.unbounded.parseAll text).take count
      | none => parser.unbounded.parseAll text) ∧
    ∀ calls, ((parser.parses (parser.tokenize text)).after calls).next.1 =
      (parser.parseAll text)[calls]? := by
  have parsed := parser.parseTokens_eq_ite (parser.tokenize text)
  rw [← parse] at parsed
  have fails : parser.parse text = none ↔
      parser.grammar.roots parser.options (parser.tokenize text) = [] ∨
        parser.options.maxParses = some 0 := by
    rw [parsed]
    by_cases bound : parser.options.maxParses = some 0
    · simp [bound]
    · rw [if_neg bound, Option.map_eq_none_iff, List.head?_eq_none_iff]
      simp [bound]
  refine ⟨fails, ?_, parsed, fun outcome => ?_, parser.unbounded_parseAllTokens _,
    parser.parseAllTokens_eq_take _, fun calls => ?_⟩
  · rw [← fails, tryParse_eq]
    cases parser.parse text <;> simp
  · rw [tryParse_eq]
    cases parser.parse text <;> simp
  · rw [Parses.fst_next_after, rest_parses]
    rfl

/-- A grammar of one word. -/
def oneWordDeclaration : Declaration where
  definitions := [⟨"GOAL", .literals ["go"]⟩]

/-- The word is a match of the start symbol, but a parser that may hand out no parses does not find
it, and says that it cannot be matched anywhere. -/
theorem bound_of_zero_hides_root : ∃ grammar, oneWordDeclaration.build = .ok grammar ∧
    (grammar.roots { maxParses := some 0 } (Tokenizer.blanks.tokenize "go")).length = 1 ∧
    (Parser.mk grammar { maxParses := some 0 } .blanks).parse "go" = none ∧
    (Parser.mk grammar { maxParses := some 0 } .blanks).tryParse "go" =
      .error (.noParse "GOAL" "go" 1) := by
  obtain ⟨grammar, built, read⟩ : ∃ grammar, oneWordDeclaration.build = .ok grammar ∧
      ((grammar.roots { maxParses := some 0 } (Tokenizer.blanks.tokenize "go")).length,
        (Tokenizer.blanks.tokenize "go").length, grammar.goalName) = (1, 1, "GOAL") :=
    exists_built (by decide +kernel)
  obtain ⟨found, read⟩ := Prod.mk.inj read
  obtain ⟨single, goal⟩ := Prod.mk.inj read
  have hidden : (Parser.mk grammar { maxParses := some 0 } .blanks).parse "go" = none :=
    parseTokens_eq_ite _ _
  refine ⟨grammar, built, found, hidden, ?_⟩
  rw [tryParse_eq, hidden, goal]
  exact congrArg (fun count => Except.error (Diagnostic.noParse "GOAL" "go" count)) single

end Parser

end Utterance

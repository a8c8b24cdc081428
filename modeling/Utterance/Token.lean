import Utterance.Text.Blank
import Utterance.Text.Words

/-!
# Tokens

A parse works on a list of tokens: words of the input, each with a number of its own. A tokenizer
divides text into words and numbers them in order; a caller that has words already numbers them
with `Token.ofWords`.
-/
namespace Utterance

/-- A word of input and its number. -/
structure Token where
  /-- The word as it stands in the input. -/
  text : String
  /-- Number of the word. -/
  index : Nat
deriving Repr, DecidableEq, Inhabited

namespace Token

/-- Tokens of words that are already divided, numbered in order. -/
def ofWords (words : List String) : List Token := words.mapIdx fun index text => ⟨text, index⟩

end Token

/-- How text is divided into tokens. -/
inductive Tokenizer where
  /-- At the word boundaries of the text; punctuation is dropped. -/
  | words
  /-- At blanks only; punctuation stays with its word. -/
  | blanks
deriving Repr, DecidableEq, Inhabited

/-- Tokens of a text. -/
def Tokenizer.tokenize : Tokenizer → String → List Token
  | .words, text => Token.ofWords (Text.words text)
  | .blanks, text => Token.ofWords (Text.splitBlank text)

end Utterance

import QueryTree.Normalizer
import QueryTree.Query.Node

/-!
# The index terms of literals

A term stands for the terms of its text.  A phrase stands for the terms of the words between its
quotes.  A wildcard stands for a pattern over index terms: the ASCII letters and digits of its
text in lower case, with `*` for what may stand between them.

## Main definitions

* `Literal.terms`: index terms of a term or phrase.
* `Literal.phraseText`: what stands between the quotes of a phrase.
* `Literal.pattern`, `Literal.fragments`: pattern of a wildcard, and its parts between the `*`.
-/

namespace QueryTree

namespace Text

/-- A text without a quote at its start. -/
def dropOpeningQuote : Text → Text
  | '"' :: t => t
  | t => t

/-- A text without a quote at its end. -/
def dropClosingQuote (t : Text) : Text :=
  if t.getLast? = some '"' then t.dropLast else t

/-- Whether a character is kept in the pattern of a wildcard. -/
def isWildcardChar (c : Char) : Bool := isAsciiLetter c || isAsciiDigit c || c = '*'

end Text

namespace Literal

/-- What stands between the quotes of a phrase. -/
def phraseText {ν : Type} (l : Literal ν) : Text := l.text.dropOpeningQuote.dropClosingQuote

/-- The pattern of a wildcard. -/
def pattern {ν : Type} (l : Literal ν) : Text :=
  Text.lower (l.text.filter Text.isWildcardChar)

/-- The parts of a wildcard between the `*`, the empty ones left out. -/
def fragments {ν : Type} (l : Literal ν) : List Text :=
  (Text.pieces (· = '*') l.pattern).filter fun p => !p.isEmpty

/-- The index terms of a literal by its own normalizer, if it is a term or a phrase. -/
def terms (l : Literal Normalizer) : List Text :=
  match l.kind with
  | .phrase => l.phraseText.words.flatMap l.normalizer.processToken
  | _ => l.normalizer.processToken l.text

end Literal
end QueryTree

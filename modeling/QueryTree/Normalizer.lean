import QueryTree.Pattern.Strip
import QueryTree.Query.Describe

/-!
# Normalizers

An index holds terms, not words as they are written.  A normalizer turns a token into the term
that stands for it: it strips a pattern from the token and, if asked to, lower-cases what is left.
A token of which nothing is left stands for no term.

## Main definitions

* `Normalizer`: a strip pattern and whether to lower-case.
* `Normalizer.processToken`: the terms of a token, at most one.
* `Normalizer.standard`: lower-casing, and nothing kept but word characters.
-/

namespace QueryTree

/-- The pattern of a single character that is not a word character. -/
def Pattern.nonWord : Pattern where
  source := ['\\', 'W']
  program :=
    { regex := .cat (.char ⟨.exact, false, false, [.category .word true]⟩) .empty
      firstLook := some ⟨.exact, false, false, [.category .word true]⟩ }
  compiled := rfl

/-- How tokens are turned into index terms. -/
structure Normalizer where
  lowercase : Bool
  pattern : Pattern
deriving DecidableEq

namespace Normalizer

/-- Lower-cases tokens and keeps their word characters only. -/
def standard : Normalizer := ⟨true, .nonWord⟩

/-- The normalizer with a given pattern, or why the pattern is refused. -/
def make (lowercase : Bool) (pattern : Text) : Except PatternError Normalizer :=
  (Pattern.ofText pattern).map fun p => ⟨lowercase, p⟩

/-- What is left of a token. -/
def normalize (n : Normalizer) (token : Text) : Text :=
  let stripped := n.pattern.strip token
  if n.lowercase then stripped.lower else stripped

/-- The terms of a token: what is left of it, if anything is. -/
def processToken (n : Normalizer) (token : Text) : List Text :=
  match n.normalize token with
  | [] => []
  | c :: cs => [c :: cs]

/-- What is applied once more to a term that is normalized already: nothing. -/
def normalization (_ : Normalizer) (_ : Text) : Option Text := none

/-- A normalizer written out. -/
def describe (n : Normalizer) : Text :=
  "BasicTermNormalizer(lowercase=".toList ++ Text.ofBool n.lowercase ++ ", strip_pattern=".toList
    ++ n.pattern.source.quoted ++ [')']

end Normalizer
end QueryTree

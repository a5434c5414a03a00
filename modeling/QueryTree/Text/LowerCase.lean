import QueryTree.Text.LowerCase.Table

/-!
# Lower-casing

Every character is replaced by its lower-case form.  Two characters are special: the capital I
with dot above becomes two characters, and the capital sigma is written as a final sigma when it
ends a word, that is, when a cased letter stands before it and none after it, case-ignorable
characters skipped on both sides.

## Main definitions

* `Text.lowerCode`: the lower-case form of a code point, one code point long.
* `Text.isFinalSigma`: the context of a final sigma.
* `Text.lower`: the lower-case form of a text.
* `Text.lowerAscii`: lower-casing that knows the letters A to Z only.
-/

namespace QueryTree.Text

/-- The lower-case form of a code point; code points without one stay as they are. -/
def lowerCode (n : Nat) : Nat := (lowerRuns.findSome? (·.map? n)).getD n

/-- The code points whose lower-case form is `n`, apart from `n` itself. -/
def upperVariants (n : Nat) : List Nat := lowerRuns.filterMap (·.preimage? n)

/-- Whether the first character of a text that is not case-ignorable is a cased letter. -/
def meetsCased (t : Text) : Bool :=
  match t.dropWhile caseIgnorable.has with
  | [] => false
  | c :: _ => casedLetters.has c

/-- Whether a capital sigma ends a word, given what stands before it (nearest first) and what
stands after it. -/
def isFinalSigma (before after : Text) : Bool := meetsCased before && !meetsCased after

/-- The lower-case form of a character in its context. -/
def lowerChar (before after : Text) (c : Char) : Text :=
  if c = '\u03a3' then [if isFinalSigma before after then '\u03c2' else '\u03c3']
  else if c = '\u0130' then ['i', '\u0307']
  else [Char.ofNat (lowerCode c.toNat)]

/-- The lower-case form of the rest of a text, given what stands before it (nearest first). -/
def lowerFrom (before : Text) : Text → Text
  | [] => []
  | c :: cs => lowerChar before cs c ++ lowerFrom (c :: before) cs

/-- The lower-case form of a text. -/
def lower (t : Text) : Text := lowerFrom [] t

/-- The lower-case form of a character among the ASCII letters; others stay as they are. -/
def lowerAscii (c : Char) : Char :=
  if 'A' ≤ c ∧ c ≤ 'Z' then Char.ofNat (c.toNat + 32) else c

end QueryTree.Text

import QueryTree.Pattern.Item
import QueryTree.Text.Blank
import QueryTree.Text.Letter
import QueryTree.Text.LowerCase

/-!
# Tests on single characters

Everything in a pattern that matches one character is a set of members, possibly negated, with
two settings: how upper and lower case are compared, and whether the named classes cover all of
Unicode or ASCII only.

## Main definitions

* `CaseMode`, `CharTest`: the settings and the test.
* `CharTest.test`: whether a character passes.
-/

namespace QueryTree

/-- How upper and lower case are compared. -/
inductive CaseMode
  /-- They differ. -/
  | exact
  /-- The letters A to Z equal their lower-case forms. -/
  | ascii
  /-- Letters are equal when their lower-case forms are, or share their upper-case form. -/
  | unicode
deriving DecidableEq, Repr

/-- A test on single characters. -/
structure CharTest where
  caseMode : CaseMode
  /-- Whether the named classes cover all of Unicode. -/
  wide : Bool
  negated : Bool
  members : List SetMember
deriving DecidableEq, Repr

/-- White space of ASCII. -/
def Text.isAsciiBlank (c : Char) : Bool :=
  c = ' ' || c = '\t' || c = '\n' || c = '\r' || c = '\x0b' || c = '\x0c'

namespace Category

/-- Whether a character belongs to a class, in ASCII or in all of Unicode. -/
def has (wide : Bool) : Category → Char → Bool
  | .digit, c => if wide then Text.isDecimal c else Text.isAsciiDigit c
  | .space, c => if wide then Text.isBlank c else Text.isAsciiBlank c
  | .word, c => if wide then Text.isAlphanumeric c || c = '_' else Text.isAsciiWord c

end Category

namespace CaseMode

/-- The lower-case form of a code point among the ASCII letters. -/
def lowerAsciiCode (n : Nat) : Nat := if 65 ≤ n ∧ n ≤ 90 then n + 32 else n

/-- The lower-case letters that share their upper-case form with `n`, and `n`. -/
def kin (n : Nat) : List Nat := n :: (Text.sharedUpper.filter (·.contains n)).flatten

/-- The code points that are equal to `n` up to case. -/
def variants : CaseMode → Nat → List Nat
  | .exact, n => [n]
  | .ascii, n =>
    let l := lowerAsciiCode n
    if 97 ≤ l ∧ l ≤ 122 then [l, l - 32] else [l]
  | .unicode, n =>
    let ls := kin (Text.lowerCode n)
    ls ++ ls.flatMap Text.upperVariants

/-- Whether two code points are equal up to case. -/
def same (m : CaseMode) (a b : Nat) : Bool := (m.variants a).contains b

/-- Whether a code point has other variants than itself. -/
def isCased (m : CaseMode) (n : Nat) : Bool := (m.variants n).any (· ≠ n)

end CaseMode

namespace SetMember

/-- Whether a character is covered by a member of a set. -/
def covers (mode : CaseMode) (wide : Bool) (c : Char) : SetMember → Bool
  | .code n => (mode.variants c.toNat).contains n
  | .range low high => (mode.variants c.toNat).any fun v => low ≤ v && v ≤ high
  | .category k negated => k.has wide c != negated

/-- Whether a member of a set names a code point that has case. -/
def isCased (mode : CaseMode) : SetMember → Bool
  | .code n => mode.isCased n
  | .range low high => (List.range (high + 1 - low)).any fun i => mode.isCased (low + i)
  | .category _ _ => false

end SetMember

namespace CharTest

/-- Whether a character passes a test. -/
def test (t : CharTest) (c : Char) : Bool :=
  t.members.any (·.covers t.caseMode t.wide c) != t.negated

/-- The test that every character passes. -/
def any : CharTest := ⟨.exact, false, true, []⟩

/-- The test that every character but the line feed passes. -/
def anyButLineFeed : CharTest := ⟨.exact, false, true, [.code 10]⟩

end CharTest
end QueryTree

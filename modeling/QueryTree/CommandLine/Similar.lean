import QueryTree.Text.Basic

/-!
# Similar names

A name that is not known may be a misspelling.  How similar two names are is measured by the
characters that they share in order: those of the longest common run, and those of the longest
common runs on either side of it, and so on.

## Main definitions

* `Similar.longestRun`: the longest common run of two texts.
* `Similar.shared`: how many characters two texts share in order.
* `Similar.closeMatches`: the names that are similar enough to be meant.
-/

namespace QueryTree.Similar

/-- The number of characters that two texts have in common at their front. -/
def commonStart : Text → Text → Nat
  | c :: cs, d :: ds => if c = d then commonStart cs ds + 1 else 0
  | _, _ => 0

/-- A common run: where it starts in two texts, and its length. -/
structure Run where
  first : Nat
  second : Nat
  length : Nat
deriving DecidableEq, Repr

/-- The longer one of two runs, and the first one if they are equally long. -/
def Run.better (r s : Run) : Run := if r.length < s.length then s else r

/-- The common runs of two texts, one for each pair of places. -/
def runs (a b : Text) : List Run :=
  (List.range a.length).flatMap fun i =>
    (List.range b.length).map fun j => ⟨i, j, commonStart (a.drop i) (b.drop j)⟩

/-- The longest common run of two texts, the first one in the first text and then in the
second. -/
def longestRun (a b : Text) : Run := (runs a b).foldl Run.better ⟨0, 0, 0⟩

/-- How many characters two texts share in order.  Each round leaves shorter texts, so as many
rounds as the first text has characters are enough. -/
def sharedFrom : Nat → Text → Text → Nat
  | 0, _, _ => 0
  | rounds + 1, a, b =>
    let r := longestRun a b
    if r.length = 0 then 0
    else r.length + sharedFrom rounds (a.take r.first) (b.take r.second)
      + sharedFrom rounds (a.drop (r.first + r.length)) (b.drop (r.second + r.length))

/-- How many characters two texts share in order. -/
def shared (a b : Text) : Nat := sharedFrom (a.length + 1) a b

/-- A name with its likeness to a word: the characters shared, out of those of both. -/
structure Candidate where
  name : Text
  common : Nat
  total : Nat
deriving DecidableEq, Repr

namespace Candidate

/-- A name compared with a word. -/
def of (word name : Text) : Candidate := ⟨name, shared name word, name.length + word.length⟩

/-- Whether at least three fifths of the characters are shared. -/
def isClose (c : Candidate) : Bool := 3 * c.total ≤ 10 * c.common

/-- Whether one candidate comes before another: the more similar one, and of equally similar
ones the later one in the order of names. -/
def before (c d : Candidate) : Bool :=
  let x := c.common * d.total
  let y := d.common * c.total
  y < x || (x = y && !(c.name < d.name : Bool))

end Candidate

/-- The at most three names that are most similar to a word and similar enough, in the order of
names. -/
def closeMatches (word : Text) (names : List Text) : List Text :=
  let close := (names.map (Candidate.of word)).filter Candidate.isClose
  let best := (close.mergeSort Candidate.before).take 3
  (best.map Candidate.name).mergeSort fun a b => !(b < a : Bool)

end QueryTree.Similar

import QueryTree.Pattern.CharTest

/-!
# Matching

A compiled pattern is a tree of tests and choices.  It is matched at a place of a text by trying
its choices in order: each part of the tree gets what is to be matched after it, and when that
fails the next choice of the part is tried.

A repeat stops when a round has matched nothing, so its number of rounds is bounded by the
characters that are left.

## Main definitions

* `Regex`: the tree.
* `Cursor`: a place in a text, with what the groups have captured so far.
* `Regex.run`: matching.
-/

namespace QueryTree

/-- A condition on a place in a text. -/
inductive PlaceTest
  | textStart
  | textEnd
  /-- The end of the text, or before a line feed that ends it. -/
  | lastLineEnd
  | lineStart
  | lineEnd
  /-- Between a word character and another one, or not so if negated. -/
  | boundary (wide negated : Bool)
deriving DecidableEq, Repr

/-- A compiled pattern. -/
inductive Regex
  | empty
  | char (t : CharTest)
  | cat (a b : Regex)
  /-- The first choice, or else the second. -/
  | alt (a b : Regex)
  | capture (group : Nat) (r : Regex)
  /-- The text that a group has captured, up to case. -/
  | reference (group : Nat) (mode : CaseMode)
  | place (t : PlaceTest)
  /-- What must, or must not, be found from here on, or from `behind` characters before. -/
  | look (behind : Nat) (negated : Bool) (r : Regex)
  /-- The first match only. -/
  | atomic (r : Regex)
  | repeated (kind : RepeatKind) (least : Nat) (most : Option Nat) (r : Regex)
  /-- One of two patterns, by whether a group has captured. -/
  | condition (group : Nat) (yes no : Regex)
deriving DecidableEq, Repr

/-- A place in a text. -/
structure Cursor where
  /-- What stands before the place, nearest character first. -/
  before : Text
  /-- What stands after the place. -/
  after : Text
  /-- What the groups have captured, newest first. -/
  captures : List (Nat × Text) := []
deriving DecidableEq, Repr

namespace Cursor

/-- The number of characters that are left. -/
def left (c : Cursor) : Nat := c.after.length

/-- The place `n` characters before, if there are so many. -/
def back? (c : Cursor) (n : Nat) : Option Cursor :=
  if n ≤ c.before.length then
    some { c with before := c.before.drop n, after := (c.before.take n).reverse ++ c.after }
  else none

/-- Records what a group has captured since an earlier place. -/
def record (group : Nat) (start c : Cursor) : Cursor :=
  { c with captures := (group, start.after.take (start.left - c.left)) :: c.captures }

/-- The place after a given text, if that text follows up to case. -/
def follow? (mode : CaseMode) : Text → Cursor → Option Cursor
  | [], c => some c
  | x :: xs, c =>
    match c.after with
    | [] => none
    | y :: ys =>
      if mode.same x.toNat y.toNat then
        follow? mode xs { c with before := y :: c.before, after := ys }
      else none

/-- Whether the character before a place, or after it, is a word character. -/
def isWordAt (wide : Bool) (t : Text) : Bool := t.head?.any (Category.word.has wide)

end Cursor

namespace PlaceTest

/-- Whether a place meets a condition. -/
def holds : PlaceTest → Cursor → Bool
  | .textStart, c => c.before.isEmpty
  | .textEnd, c => c.after.isEmpty
  | .lastLineEnd, c => c.after.isEmpty || c.after = ['\n']
  | .lineStart, c => c.before.isEmpty || c.before.head? = some '\n'
  | .lineEnd, c => c.after.isEmpty || c.after.head? = some '\n'
  | .boundary wide negated, c =>
    (Cursor.isWordAt wide c.before != Cursor.isWordAt wide c.after) != negated

end PlaceTest

namespace Regex

/-- What is to be matched after a part of a pattern. -/
abbrev Next := Cursor → Option Cursor

/-- A number of rounds, one after the other. -/
def rounds (body : Next → Next) : Nat → Next → Cursor → Option Cursor
  | 0, next, c => next c
  | n + 1, next, c => body (rounds body n next) c

/-- At most `n` more rounds, as many as possible.  A round is not tried where the last one
started. -/
def moreRounds (body : Next → Next) (next : Next) : Nat → Option Nat → Cursor → Option Cursor
  | 0, _, c => next c
  | n + 1, last, c =>
    if last = some c.left then next c
    else match body (moreRounds body next n (some c.left)) c with
      | some d => some d
      | none => next c

/-- At most `n` more rounds, as few as possible. -/
def fewRounds (body : Next → Next) (next : Next) : Nat → Option Nat → Cursor → Option Cursor
  | 0, _, c => next c
  | n + 1, last, c =>
    match next c with
    | some d => some d
    | none => if last = some c.left then none else body (fewRounds body next n (some c.left)) c

/-- A number of rounds of which each keeps its first match. -/
def keptRounds (body : Next → Next) : Nat → Cursor → Option Cursor
  | 0, c => some c
  | n + 1, c =>
    match body some c with
    | none => none
    | some d => keptRounds body n d

/-- At most `n` more rounds, as many as possible, of which each keeps its first match. -/
def keptMore (body : Next → Next) : Nat → Cursor → Cursor
  | 0, c => c
  | n + 1, c =>
    match body some c with
    | none => c
    | some d => if d.left = c.left then d else keptMore body n d

/-- A bound on the rounds after the required ones: each but the last passes a character. -/
def spare (least : Nat) (most : Option Nat) (c : Cursor) : Nat :=
  match most with
  | none => c.left + 1
  | some m => min (m - least) (c.left + 1)

/-- Matching a repeat whose rounds are matched by `body`. -/
def runRepeated (kind : RepeatKind) (least : Nat) (most : Option Nat) (body : Next → Next)
    (next : Next) (c : Cursor) : Option Cursor :=
  match kind with
  | .greedy => rounds body least (fun d => moreRounds body next (spare least most d) none d) c
  | .lazy => rounds body least (fun d => fewRounds body next (spare least most d) none d) c
  | .possessive =>
    match keptRounds body least c with
    | none => none
    | some d => next (keptMore body (spare least most d) d)

/-- Matching at a place: the place after the first match that `next` accepts, as `next` gives
it. -/
def run : Regex → Next → Cursor → Option Cursor
  | .empty, next, c => next c
  | .char t, next, c =>
    match c.after with
    | [] => none
    | x :: xs => if t.test x then next { c with before := x :: c.before, after := xs } else none
  | .cat a b, next, c => run a (run b next) c
  | .alt a b, next, c =>
    match run a next c with
    | some d => some d
    | none => run b next c
  | .capture group r, next, c => run r (fun d => next (Cursor.record group c d)) c
  | .reference group mode, next, c =>
    match c.captures.lookup group with
    | none => none
    | some t =>
      match Cursor.follow? mode t c with
      | none => none
      | some d => next d
  | .place t, next, c => if t.holds c then next c else none
  | .look behind negated r, next, c =>
    match (c.back? behind).bind (run r some) with
    | none => if negated then next c else none
    | some d => if negated then none else next { c with captures := d.captures }
  | .atomic r, next, c =>
    match run r some c with
    | none => none
    | some d => next d
  | .repeated kind least most r, next, c => runRepeated kind least most (run r) next c
  | .condition group yes no, next, c =>
    if (c.captures.lookup group).isSome then run yes next c else run no next c

end Regex
end QueryTree

import QueryTree.Text.Basic

/-!
# The items of a pattern

A pattern is read as a sequence of items: single characters and sets, anchors, references, groups,
look-around, repeats and branches.  Flags that a group switches on or off are kept at the group;
what they mean for the characters inside is settled when the pattern is compiled.

Code points are natural numbers here, because a pattern may name one that no text can hold.

## Main definitions

* `Category`, `SetMember`, `Anchor`, `RepeatKind`, `Flags`: the parts of items.
* `PatternItem`: an item.
* `PatternItem.width`: the least and the greatest number of characters that items can match.
-/

namespace QueryTree

/-- The named classes of characters. -/
inductive Category
  | digit
  | space
  | word
deriving DecidableEq, Repr

/-- A member of a character set. -/
inductive SetMember
  | code (n : Nat)
  | range (low high : Nat)
  | category (k : Category) (negated : Bool)
deriving DecidableEq, Repr

/-- A condition on a place in the text. -/
inductive Anchor
  /-- The start of the text, or of a line when lines count. -/
  | start
  /-- The end of the text or before its last line feed, or the end of a line when lines count. -/
  | finish
  | textStart
  | textEnd
  | boundary
  | noBoundary
deriving DecidableEq, Repr

/-- How a repeat prefers its number of rounds. -/
inductive RepeatKind
  /-- As many rounds as possible, fewer if what follows needs it. -/
  | greedy
  /-- As few rounds as possible, more if what follows needs it. -/
  | lazy
  /-- As many rounds as possible, and never fewer. -/
  | possessive
deriving DecidableEq, Repr

/-- The switches of a pattern. -/
structure Flags where
  ignoreCase : Bool := false
  multiLine : Bool := false
  dotAll : Bool := false
  verbose : Bool := false
  ascii : Bool := false
  unicode : Bool := false
  template : Bool := false
deriving DecidableEq, Repr

namespace Flags

/-- The switches that are on in one of two sets. -/
def union (f g : Flags) : Flags :=
  ⟨f.ignoreCase || g.ignoreCase, f.multiLine || g.multiLine, f.dotAll || g.dotAll,
    f.verbose || g.verbose, f.ascii || g.ascii, f.unicode || g.unicode,
    f.template || g.template⟩

/-- The switches of the first set that are not on in the second. -/
def minus (f g : Flags) : Flags :=
  ⟨f.ignoreCase && !g.ignoreCase, f.multiLine && !g.multiLine, f.dotAll && !g.dotAll,
    f.verbose && !g.verbose, f.ascii && !g.ascii, f.unicode && !g.unicode,
    f.template && !g.template⟩

/-- Whether two sets have a switch in common. -/
def meets (f g : Flags) : Bool :=
  (f.ignoreCase && g.ignoreCase) || (f.multiLine && g.multiLine) || (f.dotAll && g.dotAll)
    || (f.verbose && g.verbose) || (f.ascii && g.ascii) || (f.unicode && g.unicode)
    || (f.template && g.template)

/-- The switches inside a group that turns `on` and `off`; a character repertoire that is turned
on replaces the other one. -/
def within (f on off : Flags) : Flags :=
  let base : Flags :=
    if on.ascii || on.unicode then { f with ascii := false, unicode := false } else f
  (base.union on).minus off

end Flags

/-- An item of a pattern. -/
inductive PatternItem
  /-- Any character; a line feed only with the switch for it. -/
  | any
  | code (n : Nat)
  | notCode (n : Nat)
  | set (negated : Bool) (members : List SetMember)
  | anchor (a : Anchor)
  /-- The text that a group matched, with the least and greatest width of that group. -/
  | reference (group : Nat) (least most : Nat)
  /-- A group, with its number if it captures, and the switches that it turns on and off. -/
  | group (number : Option Nat) (on off : Flags) (body : List PatternItem)
  /-- A group that gives back nothing of what it matched. -/
  | atomic (body : List PatternItem)
  /-- What must or must not stand after, or before, a place. -/
  | look (behind negated : Bool) (body : List PatternItem)
  | repeated (kind : RepeatKind) (least : Nat) (most : Option Nat) (body : List PatternItem)
  | branch (alternatives : List (List PatternItem))
  /-- One of two sequences, by whether a group has matched. -/
  | condition (group : Nat) (yes no : List PatternItem)
deriving Repr

namespace PatternItem

/-- Widths of 64 bits and more are not told apart. -/
def widthLimit : Nat := 0x10000000000000000

/-- A pair of widths, cut off at the limit. -/
def cutWidth (w : Nat × Nat) : Nat × Nat := (min w.1 widthLimit, min w.2 widthLimit)

/-- The widths of two sequences one after the other. -/
def addWidth (v w : Nat × Nat) : Nat × Nat := (v.1 + w.1, v.2 + w.2)

/-- The widths of a choice between two sequences. -/
def eitherWidth (v w : Nat × Nat) : Nat × Nat := (min v.1 w.1, max v.2 w.2)

/-- The widths of a repeat. -/
def timesWidth (least : Nat) (most : Option Nat) (w : Nat × Nat) : Nat × Nat :=
  (w.1 * least, match most with
    | some m => w.2 * m
    | none => if w.2 = 0 then 0 else widthLimit)

mutual

/-- The least and the greatest number of characters that an item can match. -/
def widthOne : PatternItem → Nat × Nat
  | .any => (1, 1)
  | .code _ => (1, 1)
  | .notCode _ => (1, 1)
  | .set _ _ => (1, 1)
  | .anchor _ => (0, 0)
  | .reference _ least most => (least, most)
  | .group _ _ _ body => cutWidth (widthSum body)
  | .atomic body => cutWidth (widthSum body)
  | .look _ _ _ => (0, 0)
  | .repeated _ least most body => timesWidth least most (cutWidth (widthSum body))
  | .branch alternatives => widthAny alternatives
  | .condition _ yes no => eitherWidth (cutWidth (widthSum yes)) (cutWidth (widthSum no))

/-- The widths of a sequence before they are cut off. -/
def widthSum : List PatternItem → Nat × Nat
  | [] => (0, 0)
  | i :: is => addWidth (widthOne i) (widthSum is)

/-- The widths of a choice between sequences. -/
def widthAny : List (List PatternItem) → Nat × Nat
  | [] => (widthLimit, 0)
  | a :: as => eitherWidth (cutWidth (widthSum a)) (widthAny as)

end

/-- The least and the greatest number of characters that a sequence of items can match. -/
def width (items : List PatternItem) : Nat × Nat := cutWidth (widthSum items)

/-- Whether two items are equal single-character items, anchors or references. -/
def sameSimple : PatternItem → PatternItem → Bool
  | .any, .any => true
  | .code n, .code m => n = m
  | .notCode n, .notCode m => n = m
  | .set b ms, .set c ns => b = c && ms = ns
  | .anchor a, .anchor b => a = b
  | .reference g _ _, .reference h _ _ => g = h
  | _, _ => false

end PatternItem
end QueryTree

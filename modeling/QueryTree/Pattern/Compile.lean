import QueryTree.Pattern.Reader
import QueryTree.Pattern.Regex

/-!
# Compiling a pattern

When the items of a pattern are compiled, the switches that hold at each item settle what it
means.  A look-behind needs a fixed width.

A pattern that starts with a set and cannot match the empty text is only tried at characters of
that set.  For this first look the named classes are taken in the repertoire of the whole
pattern, whatever a group around the set says.

## Main definitions

* `PatternItem.compile`: the compiled form of a sequence of items.
* `Program`, `Program.compile`: a compiled pattern with its first look.
-/

namespace QueryTree

namespace Flags

/-- How upper and lower case are compared under given switches. -/
def caseMode (f : Flags) : CaseMode :=
  if !f.ignoreCase then .exact else if f.unicode then .unicode else .ascii

end Flags

namespace Anchor

/-- The condition that an anchor is under given switches. -/
def placeTest (f : Flags) : Anchor → PlaceTest
  | .start => if f.multiLine then .lineStart else .textStart
  | .finish => if f.multiLine then .lineEnd else .lastLineEnd
  | .textStart => .textStart
  | .textEnd => .textEnd
  | .boundary => .boundary f.unicode false
  | .noBoundary => .boundary f.unicode true

end Anchor

namespace PatternItem

/-- The widest look-behind. -/
def lookbehindLimit : Nat := 4294967295

/-- The width of a look-behind over a body of given widths. -/
def lookbehindWidth (w : Nat × Nat) : Except PatternError Nat :=
  if lookbehindLimit < w.1 then .error (.malformed .farLookbehind none)
  else if w.1 ≠ w.2 then .error (.malformed .variableLookbehind none)
  else .ok w.1

mutual

/-- The compiled form of an item under given switches. -/
def compileOne (f : Flags) : PatternItem → Except PatternError Regex
  | .any => .ok (.char (if f.dotAll then .any else .anyButLineFeed))
  | .code n => .ok (.char ⟨f.caseMode, f.unicode, false, [.code n]⟩)
  | .notCode n => .ok (.char ⟨f.caseMode, f.unicode, true, [.code n]⟩)
  | .set negated members => .ok (.char ⟨f.caseMode, f.unicode, negated, members⟩)
  | .anchor a => .ok (.place (a.placeTest f))
  | .reference g _ _ => .ok (.reference g f.caseMode)
  | .group none on off body => compile (f.within on off) body
  | .group (some number) on off body => do
    return .capture number (← compile (f.within on off) body)
  | .atomic body => do return .atomic (← compile f body)
  | .look false negated body => do return .look 0 negated (← compile f body)
  | .look true negated body => do
    let behind ← lookbehindWidth (width body)
    return .look behind negated (← compile f body)
  | .repeated kind least most body => do
    if f.template then throw (.malformed (.templateRepeat kind) none)
    return .repeated kind least most (← compile f body)
  | .branch alternatives => compileAny f alternatives
  | .condition g yes no => do
    return .condition g (← compile f yes) (← compile f no)

/-- The compiled form of a sequence of items under given switches. -/
def compile (f : Flags) : List PatternItem → Except PatternError Regex
  | [] => .ok .empty
  | i :: is => do return .cat (← compileOne f i) (← compile f is)

/-- The compiled form of alternatives, of which there is at least one. -/
def compileAny (f : Flags) : List (List PatternItem) → Except PatternError Regex
  | [] => .ok .empty
  | [a] => compile f a
  | a :: b :: as => do return .alt (← compile f a) (← compileAny f (b :: as))

end

mutual

/-- The set that an item starts with, unless case is ignored in it. -/
def firstSetOne (wide : Bool) (f : Flags) : PatternItem → Option CharTest
  | .set negated members =>
    if members.any (·.isCased f.caseMode) then none else some ⟨.exact, wide, negated, members⟩
  | .group _ on off body => firstSet wide (f.within on off) body
  | _ => none

/-- The set that a sequence of items starts with. -/
def firstSet (wide : Bool) (f : Flags) : List PatternItem → Option CharTest
  | [] => none
  | i :: _ => firstSetOne wide f i

end

end PatternItem

/-- A compiled pattern with the test that its matches have to start with. -/
structure Program where
  regex : Regex
  firstLook : Option CharTest
deriving DecidableEq, Repr

/-- Compiles a pattern under the given switches for the whole. -/
def Program.compile (flags : Flags) (pattern : Text) : Except PatternError Program := do
  let (items, flags) ← readPattern flags pattern
  let regex ← PatternItem.compile flags items
  return ⟨regex,
    if (PatternItem.width items).1 = 0 then none
    else PatternItem.firstSet flags.unicode flags items⟩

end QueryTree

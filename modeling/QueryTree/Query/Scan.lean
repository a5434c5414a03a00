import QueryTree.Query.Node
import QueryTree.Text.Offset

/-!
# Scanning a query

A query is a sequence of groups with `+` between them, and a group is a sequence of literals.
The two scanners find the next group of a query and the next literal of a group from a given
offset on, and report where it lies.

A literal ends at a space or before a quote.  A quote at its start opens a phrase that runs to the
next quote, whatever stands between; if there is no next quote, the quote is dropped.

Each scanner comes twice.  `groupAt` and `literalAt` say what is found in terms of the text that
follows an offset.  `group` and `literal` read one character after the other by its signed offset,
so that they also work from an offset that counts from the end, and a read at an offset that
names no character ends them with a refusal.

## Main definitions

* `Bounds`: where something was found.
* `Scan.groupAt`, `Scan.literalAt`: the scanners.
* `Scan.charAt`: a read that can be refused.
* `Scan.group`, `Scan.literal`: the scanners that read character by character.
* `Scan.runs`, `Scan.scans`: a scanner applied again and again from where it stopped.
-/

namespace QueryTree

/-- A part of a text: where it starts and how long it is. -/
structure Bounds where
  start : Int
  length : Int
deriving DecidableEq, Repr

namespace Bounds

/-- The offset after the part. -/
def stop (b : Bounds) : Int := b.start + b.length

/-- The part of a text that lies in the bounds. -/
def slice (b : Bounds) (t : Text) : Text := t.slice b.start b.stop

/-- The bounds written out. -/
def describe (b : Bounds) : Text :=
  "ScanBounds(start=".toList ++ Text.ofInt b.start ++ ", length=".toList ++ Text.ofInt b.length
    ++ [')']

end Bounds

/-- Why an offset is refused. -/
inductive OffsetError
  /-- The offset names no character of the text. -/
  | outOfRange
  /-- The offset is too large in absolute value to be an offset at all. -/
  | unindexable
deriving DecidableEq, Repr

/-- The report of a refused offset. -/
def OffsetError.message : OffsetError → Text
  | .outOfRange => "string index out of range".toList
  | .unindexable => "cannot fit ".toList ++ [Char.ofNat 39] ++ "int".toList ++ [Char.ofNat 39]
      ++ " into an index-sized integer".toList

namespace Scan

/-- Whether a character separates groups. -/
def isGroupSeparator (c : Char) : Bool := c = ' ' || c = '+'

/-- The offset of the first character outside a class, from an offset on. -/
def skip (p : Char → Bool) (t : Text) (start : Int) : Int :=
  start + ((t.fromOffset start).takeWhile p).length

/-- The offset of the first character outside a class, from a position back. -/
def skipBack (p : Char → Bool) (t : Text) (start : Nat) : Int :=
  start - ((t.upToOffset start).takeWhile p).length

/-- The next group from an offset on: separators are skipped, and the group ends with the query
or before the separators around the next `+`. -/
def groupAt (query : Text) (start : Int) : Option Bounds :=
  let first := skip isGroupSeparator query start
  if query.length ≤ first then none
  else match query.findFrom? '+' (first + 1) with
    | none => some ⟨first, query.length - first⟩
    | some plus => some ⟨first, skipBack isGroupSeparator query plus + 1 - first⟩

/-- What a literal that starts at an offset covers, and whether it is a phrase. -/
def extent (group : Text) (first : Int) : Bool × Bounds :=
  let space := group.findFrom? ' ' first
  let wordEnd : Int := (space.getD group.length : Nat)
  match group.findFrom? '"' first with
  | none => (false, ⟨first, wordEnd - first⟩)
  | some quote =>
    if space.any (· < quote) then (false, ⟨first, wordEnd - first⟩)
    else if group.at? first ≠ some '"' then (false, ⟨first, quote - first⟩)
    else match group.findFrom? '"' (quote + 1 : Nat) with
      | some closing => (true, ⟨first, closing + 1 - first⟩)
      | none => (false, ⟨first + 1, wordEnd - (first + 1)⟩)

/-- The literal of a word: a `*` makes it a wildcard. -/
def wordLiteral {ν : Type} (normalizer : ν) (text : Text) (negated : Bool) : Literal ν :=
  ⟨if text.contains '*' then .wildcard else .term, text, negated, normalizer⟩

/-- A word that starts with a dash is the rest of it, negated. -/
def negation (group : Text) (b : Bounds) : Bool × Bounds :=
  if 0 < b.length ∧ group.at? b.start = some '-' then (true, ⟨b.start + 1, b.length - 1⟩)
  else (false, b)

/-- The next literal from an offset on, with its bounds: spaces are skipped, and the dash of a
negated word and a dropped quote stand before the bounds. -/
def literalAt {ν : Type} (normalizer : ν) (group : Text) (start : Int) :
    Option (Bounds × Literal ν) :=
  let first := skip (· = ' ') group start
  if group.length ≤ first then none
  else match extent group first with
    | (true, b) => some (b, ⟨.phrase, b.slice group, false, normalizer⟩)
    | (false, b) =>
      match negation group b with
      | (negated, b) => some (b, wordLiteral normalizer (b.slice group) negated)

/-- The character at an offset, if the offset names one. -/
def charAt (t : Text) (i : Int) : Except OffsetError Char :=
  match t.at? i with
  | some c => .ok c
  | none =>
    -- offsets have 64 bits
    if -0x8000000000000000 ≤ i ∧ i < 0x8000000000000000 then .error .outOfRange
    else .error .unindexable

theorem charAt_eq_ok_iff {t : Text} {i : Int} {c : Char} :
    charAt t i = .ok c ↔ t.at? i = some c := by
  unfold charAt
  cases t.at? i with
  | some d => simp
  | none =>
    dsimp only
    split <;> simp

/-- The offset of the first character outside a class, found by reading on from an offset.  The
end of the text is not read. -/
def pass (p : Char → Bool) (t : Text) (i : Int) : Except OffsetError Int :=
  if i < t.length then do
    let c ← charAt t i
    if p c then pass p t (i + 1) else return i
  else return i
termination_by (t.length - i).toNat

/-- The offset of the first character outside a class, found by reading back from an offset. -/
def passBack (p : Char → Bool) (t : Text) (i : Int) : Except OffsetError Int :=
  match _h : charAt t i with
  | .error e => .error e
  | .ok c => if p c then passBack p t (i - 1) else .ok i
termination_by (i + t.length + 1).toNat
decreasing_by
  have hle := Text.neg_length_le_of_at?_eq_some (charAt_eq_ok_iff.mp _h)
  omega

/-- The next group from an offset on, read character by character. -/
def group (query : Text) (start : Int) : Except OffsetError (Option Bounds) := do
  let first ← pass isGroupSeparator query start
  if query.length ≤ first then return none
  else match query.findFrom? '+' (first + 1) with
    | none => return some ⟨first, query.length - first⟩
    | some plus => return some ⟨first, (← passBack isGroupSeparator query plus) + 1 - first⟩

/-- What a literal that starts at an offset covers, and whether it is a phrase, where the first
character is read. -/
def readExtent (group : Text) (first : Int) : Except OffsetError (Bool × Bounds) :=
  let space := group.findFrom? ' ' first
  let wordEnd : Int := (space.getD group.length : Nat)
  match group.findFrom? '"' first with
  | none => return (false, ⟨first, wordEnd - first⟩)
  | some quote =>
    if space.any (· < quote) then return (false, ⟨first, wordEnd - first⟩)
    else do
      if (← charAt group first) ≠ '"' then return (false, ⟨first, quote - first⟩)
      else match group.findFrom? '"' (quote + 1 : Nat) with
        | some closing => return (true, ⟨first, closing + 1 - first⟩)
        | none => return (false, ⟨first + 1, wordEnd - (first + 1)⟩)

/-- A word that starts with a dash is the rest of it, negated, where the first character is
read. -/
def readNegation (group : Text) (b : Bounds) : Except OffsetError (Bool × Bounds) :=
  if 0 < b.length then do
    if (← charAt group b.start) = '-' then return (true, ⟨b.start + 1, b.length - 1⟩)
    else return (false, b)
  else return (false, b)

/-- The next literal from an offset on, with its bounds, read character by character. -/
def literal {ν : Type} (normalizer : ν) (group : Text) (start : Int) :
    Except OffsetError (Option (Bounds × Literal ν)) := do
  let first ← pass (· = ' ') group start
  if group.length ≤ first then return none
  else match ← readExtent group first with
    | (true, b) => return some (b, ⟨.phrase, b.slice group, false, normalizer⟩)
    | (false, b) =>
      let (negated, b) ← readNegation group b
      return some (b, wordLiteral normalizer (b.slice group) negated)

/-- What a scanner finds when it is applied at most `limit` times, each time from where the last
find stopped. -/
def runs {β : Type} (scan : Int → Option β) (stop : β → Int) : Nat → Int → List β
  | 0, _ => []
  | limit + 1, start =>
    match scan start with
    | none => []
    | some found => found :: runs scan stop limit (stop found)

/-- What a scanner that can be refused finds when it is applied at most `limit` times, each time
from where the last find stopped. -/
def scans {β : Type} (scan : Int → Except OffsetError (Option β)) (stop : β → Int) :
    Nat → Int → Except OffsetError (List β)
  | 0, _ => return []
  | limit + 1, start => do
    match ← scan start with
    | none => return []
    | some found => return found :: (← scans scan stop limit (stop found))

/-- At most `limit` groups of a query from an offset on. -/
def groupsFrom (limit : Nat) (query : Text) (start : Int) : Except OffsetError (List Bounds) :=
  scans (group query) Bounds.stop limit start

/-- At most `limit` literals of a group from an offset on. -/
def literalsFrom {ν : Type} (normalizer : ν) (limit : Nat) (group : Text) (start : Int) :
    Except OffsetError (List (Bounds × Literal ν)) :=
  scans (literal normalizer group) (·.1.stop) limit start

end Scan
end QueryTree

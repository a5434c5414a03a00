import QueryTree.Text.Basic

/-!
# Signed offsets into a text

An offset from `0` on counts from the start of a text, a negative one from its end: `-1` is the
last character.  So the offsets from `-n` to `n - 1` of a text of length `n` run through it
twice, first by the negative names of its characters and then by the others, and everything
that reads on from an offset reads the text written twice.

## Main definitions

* `Text.fromOffset`: what is read from an offset on.
* `Text.upToOffset`: what is read from an offset back.
* `Text.at?`: the character at an offset.
* `Text.clip`, `Text.slice`: the part between two offsets, each clipped to the text.
* `Text.findFrom?`: the first occurrence of a character at or after an offset.
-/

namespace QueryTree.Text

/-- What is read from an offset on: from a negative one the text is run through to its end and
then once more from its start. -/
def fromOffset (t : Text) (i : Int) : Text := (t ++ t).drop (i + t.length).toNat

/-- What is read from position `i` back, nearest character first: to the start of the text, and
then once more from its end. -/
def upToOffset (t : Text) (i : Nat) : Text := (t ++ t.take (i + 1)).reverse

/-- The character at an offset. -/
def at? (t : Text) (i : Int) : Option Char :=
  if 0 ≤ i then t[i.toNat]?
  else if -(t.length : Int) ≤ i then t[(i + t.length).toNat]?
  else none

/-- The position between `0` and the length that an end of a slice means. -/
def clip (t : Text) (i : Int) : Nat :=
  if 0 ≤ i then min i.toNat t.length else (i + t.length).toNat

/-- The part of a text from offset `lo` up to offset `hi`; empty when the ends cross. -/
def slice (t : Text) (lo hi : Int) : Text := (t.take (t.clip hi)).drop (t.clip lo)

/-- The position of the first `c` at or after an offset. -/
def findFrom? (t : Text) (c : Char) (i : Int) : Option Nat :=
  (indexOf? c (t.drop (t.clip i))).map (· + t.clip i)

theorem fromOffset_natCast (t : Text) (n : Nat) : t.fromOffset n = t.drop n := by
  have h : ((n : Int) + t.length).toNat = t.length + n := by omega
  simp [fromOffset, h, List.drop_append]

theorem at?_natCast (t : Text) (n : Nat) : t.at? n = t[n]? := by simp [at?]

/-- An offset that names a character does not lie before the text. -/
theorem neg_length_le_of_at?_eq_some {t : Text} {i : Int} {c : Char} (h : t.at? i = some c) :
    -(t.length : Int) ≤ i := by
  unfold at? at h
  split at h
  case isTrue => omega
  case isFalse =>
    split at h
    case isTrue hle => exact hle
    case isFalse => cases h

theorem clip_natCast (t : Text) (n : Nat) : t.clip n = min n t.length := by simp [clip]

theorem clip_le (t : Text) (i : Int) : t.clip i ≤ t.length := by
  unfold clip; split <;> omega

end QueryTree.Text

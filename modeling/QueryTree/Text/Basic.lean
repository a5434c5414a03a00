/-!
# Texts

Queries, patterns, files and printed lines are texts: lists of characters, so that a position
or a length counts characters and never bytes.  This module has the few operations on texts
that every other part of the library uses.

## Main definitions

* `Text`: a list of characters.
* `Text.joinWith`: texts with a separator between neighbours.
* `Text.pieces`: the pieces of a text, or of any list, between the elements of a class.
* `Text.indexOf?`: the first occurrence of a character.
* `Text.ofNat`, `Text.ofInt`, `Text.hex`: numbers written out.
-/

namespace QueryTree

/-- A text is the list of its characters. -/
abbrev Text := List Char

namespace Text

/-- The texts of a list in order, with `sep` between neighbours. -/
def joinWith (sep : Text) : List Text → Text
  | [] => []
  | [t] => t
  | t :: u :: ts => t ++ sep ++ joinWith sep (u :: ts)

@[simp] theorem joinWith_nil (sep : Text) : joinWith sep [] = [] := rfl

@[simp] theorem joinWith_singleton (sep t : Text) : joinWith sep [t] = t := rfl

@[simp] theorem joinWith_cons_cons (sep t u : Text) (ts : List Text) :
    joinWith sep (t :: u :: ts) = t ++ sep ++ joinWith sep (u :: ts) := rfl

/-- The pieces of a list between the elements of a class.  There is one piece more than there are
such elements, so the empty list has one empty piece. -/
def pieces {α : Type} (p : α → Bool) : List α → List (List α)
  | [] => [[]]
  | c :: cs =>
    if p c then [] :: pieces p cs
    else match pieces p cs with
      | [] => [[c]]
      | q :: qs => (c :: q) :: qs

theorem pieces_ne_nil {α : Type} (p : α → Bool) (t : List α) : pieces p t ≠ [] := by
  induction t with
  | nil => simp [pieces]
  | cons c cs ih =>
    rw [pieces]
    split
    · simp
    · split <;> simp

/-- The position of the first occurrence of `c`. -/
def indexOf? (c : Char) : Text → Option Nat
  | [] => none
  | d :: ds => if d = c then some 0 else (indexOf? c ds).map (· + 1)

/-- Whether `t` starts with `start`. -/
def startsWith : Text → Text → Bool
  | _, [] => true
  | [], _ :: _ => false
  | c :: cs, d :: ds => c = d && startsWith cs ds

/-- Whether `u` occurs in a text as consecutive characters. -/
def occursIn (u : Text) : Text → Bool
  | [] => u.isEmpty
  | c :: cs => startsWith (c :: cs) u || occursIn u cs

/-- A number in decimal digits. -/
def ofNat (n : Nat) : Text := Nat.toDigits 10 n

/-- An integer in decimal digits, a minus sign before a negative one. -/
def ofInt : Int → Text
  | .ofNat n => ofNat n
  | .negSucc n => '-' :: ofNat (n + 1)

/-- A number in lower-case hexadecimal digits, filled with zeros to `width` digits. -/
def hex (width n : Nat) : Text :=
  let digits := Nat.toDigits 16 n
  List.replicate (width - digits.length) '0' ++ digits

/-- The value of a digit in a base of at most sixteen. -/
def digitValue? (base : Nat) (c : Char) : Option Nat :=
  let v :=
    if '0' ≤ c ∧ c ≤ '9' then c.toNat - '0'.toNat
    else if 'a' ≤ c ∧ c ≤ 'f' then c.toNat - 'a'.toNat + 10
    else if 'A' ≤ c ∧ c ≤ 'F' then c.toNat - 'A'.toNat + 10
    else base
  if v < base then some v else none

/-- Whether a character is a digit of the base. -/
def isDigitOf (base : Nat) (c : Char) : Bool := (digitValue? base c).isSome

/-- The number that a text of digits writes in a base; characters that are no digits of the
base do not count. -/
def toNumber (base : Nat) (t : Text) : Nat :=
  t.foldl (fun n c => match digitValue? base c with
    | some v => n * base + v
    | none => n) 0

/-- Whether a character is an ASCII letter. -/
def isAsciiLetter (c : Char) : Bool := ('a' ≤ c && c ≤ 'z') || ('A' ≤ c && c ≤ 'Z')

/-- Whether a character is an ASCII digit. -/
def isAsciiDigit (c : Char) : Bool := '0' ≤ c && c ≤ '9'

/-- Whether a character is an ASCII letter, an ASCII digit or the underscore. -/
def isAsciiWord (c : Char) : Bool := isAsciiLetter c || isAsciiDigit c || c = '_'

end Text
end QueryTree

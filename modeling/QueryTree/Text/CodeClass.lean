import QueryTree.Text.Basic

/-!
# Classes of code points

A class of characters is listed by the code points at which membership changes: the first entry
starts a run of members, the second ends it, the third starts the next run, and so on in
ascending order.

## Main definitions

* `CodeClass`: the ascending list of changes.
* `CodeClass.mem`: membership of a code point.
-/

namespace QueryTree

/-- A class of code points, by the points at which membership changes. -/
structure CodeClass where
  changes : List Nat

namespace CodeClass

/-- Membership after the changes up to a code point, when `inside` holds before the first. -/
def memFrom (inside : Bool) (n : Nat) : List Nat → Bool
  | [] => inside
  | x :: xs => if n < x then inside else memFrom (!inside) n xs

/-- Whether a code point belongs to a class. -/
def mem (k : CodeClass) (n : Nat) : Bool := memFrom false n k.changes

/-- Whether a character belongs to a class. -/
def has (k : CodeClass) (c : Char) : Bool := k.mem c.toNat

end CodeClass
end QueryTree

import QueryTree.Query.Node

/-!
# Writing a tree as a query

A tree is written in query syntax: the literals of a conjunction with spaces between them, the
alternatives of a disjunction with ` + ` between them, a dash before a negated literal.  There
are no parentheses, so only trees of the shape that queries have can be read back.

## Main definitions

* `Literal.print`, `Node.print`: the written forms.
* `Node.printOption`: the written form of a tree that may be missing.
-/

namespace QueryTree

variable {ν : Type}

/-- A literal in query syntax. -/
def Literal.print (l : Literal ν) : Text := if l.negated then '-' :: l.text else l.text

/-- What stands between the children of a branch. -/
def Connective.separator : Connective → Text
  | .and => [' ']
  | .or => [' ', '+', ' ']

namespace Node

mutual

/-- A tree in query syntax. -/
def print : Node ν → Text
  | .literal l => l.print
  | .branch op a b rest => Text.joinWith op.separator (a.print :: b.print :: printAll rest)

/-- The trees of a list in query syntax. -/
def printAll : List (Node ν) → List Text
  | [] => []
  | n :: ns => n.print :: printAll ns

end

theorem printAll_eq_map (ns : List (Node ν)) : printAll ns = ns.map print := by
  induction ns with
  | nil => rfl
  | cons n ns ih => simp [printAll, ih]

/-- A tree in query syntax; nothing for no tree. -/
def printOption : Option (Node ν) → Text
  | none => []
  | some n => n.print

end Node
end QueryTree

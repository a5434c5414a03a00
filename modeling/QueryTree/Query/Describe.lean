import QueryTree.Query.Node
import QueryTree.Text.Quoted

/-!
# Trees written out in full

For reports a tree is written out field by field, with quoted texts.

## Main definitions

* `Literal.describe`, `Node.describe`: the written forms.
* `Node.describeOption`: the written form of a tree that may be missing.
* `FrozenField`: the refusal to change a field of a node.
-/

namespace QueryTree

variable {ν : Type}

/-- A truth value written out. -/
def Text.ofBool (b : Bool) : Text := if b then "True".toList else "False".toList

/-- The name of a kind of literals in reports. -/
def LiteralKind.nodeName : LiteralKind → Text
  | .term => "TermLiteral".toList
  | .phrase => "PhraseLiteral".toList
  | .wildcard => "WildcardLiteral".toList

/-- A literal written out. -/
def Literal.describe (l : Literal ν) : Text :=
  l.kind.nodeName ++ "(text=".toList ++ l.text.quoted ++ ", negated=".toList
    ++ Text.ofBool l.negated ++ [')']

namespace Node

mutual

/-- A tree written out. -/
def describe : Node ν → Text
  | .literal l => l.describe
  | .branch op a b rest =>
    op.nodeName ++ "(children=(".toList
      ++ Text.joinWith [',', ' '] (a.describe :: b.describe :: describeAll rest) ++ [')', ')']

/-- The trees of a list written out. -/
def describeAll : List (Node ν) → List Text
  | [] => []
  | n :: ns => n.describe :: describeAll ns

end

theorem describeAll_eq_map (ns : List (Node ν)) : describeAll ns = ns.map describe := by
  induction ns with
  | nil => rfl
  | cons n ns ih => simp [describeAll, ih]

/-- A tree written out; a word for no tree. -/
def describeOption : Option (Node ν) → Text
  | none => "None".toList
  | some n => n.describe

end Node

/-- The ways to change a field. -/
inductive FieldChange
  | assign
  | delete
deriving DecidableEq, Repr

/-- A change of a field of a node.  Nodes do not change, so every one is refused. -/
structure FrozenField where
  change : FieldChange
  field : Text
deriving DecidableEq, Repr

/-- The report of a refused change. -/
def FrozenField.message (e : FrozenField) : Text :=
  (match e.change with
    | .assign => "cannot assign to field ".toList
    | .delete => "cannot delete field ".toList)
    ++ Text.singleQuote :: e.field ++ [Text.singleQuote]

end QueryTree

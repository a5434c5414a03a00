import QueryTree.Markup.Tag
import QueryTree.Query.Node

/-!
# Outlines

A tree is shown as an outline: a label for every node, in console text.  The texts of literals are
escaped, so that what looks like a tag in them is shown as it is.

## Main definitions

* `LiteralKind.name`, `Connective.name`: the words for nodes.
* `Node.label`: the label of a node.
* `Outline`, `Outline.ofQuery`: labels in the shape of a tree.
-/

namespace QueryTree

variable {ν : Type}

/-- The word for a kind of literals. -/
def LiteralKind.name : LiteralKind → Text
  | .term => "term".toList
  | .phrase => "phrase".toList
  | .wildcard => "wildcard".toList

/-- The word for a connective. -/
def Connective.name : Connective → Text
  | .and => "and".toList
  | .or => "or".toList

/-- The word for a connective in capitals. -/
def Connective.title : Connective → Text
  | .and => "AND".toList
  | .or => "OR".toList

namespace Markup

/-- A text in a style. -/
def styled (style t : Text) : Text := bracketed style ++ t ++ bracketed ('/' :: style)

end Markup

/-- The style of a word for nodes. -/
def queryStyle (name : Text) : Text := "query.".toList ++ name

/-- The label of a literal. -/
def Literal.label (l : Literal ν) : Text :=
  (if l.negated then Markup.styled (queryStyle "not".toList) "NOT".toList ++ [' '] else [])
    ++ Markup.styled (queryStyle l.kind.name) l.kind.name ++ ' ' :: Markup.escape l.text

/-- The label of a node. -/
def Node.label : Node ν → Text
  | .literal l => l.label
  | .branch op _ _ _ => Markup.styled (queryStyle op.name) op.title

/-- Labels in the shape of a tree. -/
inductive Outline
  | node (label : Text) (below : List Outline)
deriving Repr

namespace Outline

mutual

/-- The outline of a tree. -/
def ofNode : Node ν → Outline
  | .literal l => .node l.label []
  | .branch op a b rest =>
    .node (Node.label (.branch op a b rest)) (ofNode a :: ofNode b :: ofNodes rest)

/-- The outlines of the trees of a list. -/
def ofNodes : List (Node ν) → List Outline
  | [] => []
  | n :: ns => ofNode n :: ofNodes ns

end

/-- The label that is shown for a query without a tree. -/
def emptyLabel : Text := Markup.styled "info".toList "(empty query)".toList

/-- The outline of a tree that may be missing. -/
def ofQuery : Option (Node ν) → Outline
  | none => .node emptyLabel []
  | some n => ofNode n

end Outline
end QueryTree

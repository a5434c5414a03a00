import QueryTree.Text.Basic

/-!
# Query trees

A query is a tree: literals joined by conjunctions and disjunctions.  A literal is a term, a
quoted phrase or a wildcard, it may be negated, and it carries the normalizer that later turns
its text into index terms.  What the normalizer is does not matter here, so trees are
parametrised by its type.

A branch has at least two children, and its type says so: a first, a second and a list of
further ones.

## Main definitions

* `Literal`, `Node`: literals and trees.
* `Node.children`, `Node.branch?`: the children of a branch, and the branch of a list of children.
* `Node.leaves`: the literals of a tree from left to right.
* `Node.erase`: the tree without its normalizers; two trees are the same query when their erased
  trees are equal.
-/

namespace QueryTree

/-- The kinds of literals. -/
inductive LiteralKind
  /-- A single word. -/
  | term
  /-- A run of words between quotes. -/
  | phrase
  /-- A word with `*` in it. -/
  | wildcard
deriving DecidableEq, Repr

/-- A literal: its text as it stands in the query, and the normalizer for that text. -/
structure Literal (ν : Type) where
  kind : LiteralKind
  text : Text
  negated : Bool
  normalizer : ν
deriving DecidableEq, Repr

/-- How the children of a branch are joined. -/
inductive Connective
  | and
  | or
deriving DecidableEq, Repr

/-- A query tree. -/
inductive Node (ν : Type)
  | literal (l : Literal ν)
  | branch (op : Connective) (first second : Node ν) (rest : List (Node ν))
deriving Repr

/-- Too few children for a branch. -/
structure TooFewChildren where
  op : Connective
  count : Nat
deriving DecidableEq, Repr

variable {ν μ : Type}

namespace Literal

/-- The literal with another normalizer. -/
def map (f : ν → μ) (l : Literal ν) : Literal μ := ⟨l.kind, l.text, l.negated, f l.normalizer⟩

/-- The literal without its normalizer. -/
def erase (l : Literal ν) : Literal Unit := l.map fun _ => ()

end Literal

namespace Node

/-- The children of a branch; a literal has none. -/
def children : Node ν → List (Node ν)
  | .literal _ => []
  | .branch _ a b rest => a :: b :: rest

/-- The branch with the given children. -/
def branch? (op : Connective) : List (Node ν) → Except TooFewChildren (Node ν)
  | a :: b :: rest => .ok (.branch op a b rest)
  | few => .error ⟨op, few.length⟩

/-- One node for a list of nodes: none for no node, a single node itself, and a branch for
more. -/
def fold (op : Connective) : List (Node ν) → Option (Node ν)
  | [] => none
  | [n] => some n
  | a :: b :: rest => some (.branch op a b rest)

mutual

/-- The literals of a tree from left to right. -/
def leaves : Node ν → List (Literal ν)
  | .literal l => [l]
  | .branch _ a b rest => a.leaves ++ (b.leaves ++ leavesAll rest)

/-- The literals of a list of trees from left to right. -/
def leavesAll : List (Node ν) → List (Literal ν)
  | [] => []
  | n :: ns => n.leaves ++ leavesAll ns

end

mutual

/-- The tree with every normalizer replaced. -/
def map (f : ν → μ) : Node ν → Node μ
  | .literal l => .literal (l.map f)
  | .branch op a b rest => .branch op (a.map f) (b.map f) (mapAll f rest)

/-- The trees of a list with every normalizer replaced. -/
def mapAll (f : ν → μ) : List (Node ν) → List (Node μ)
  | [] => []
  | n :: ns => n.map f :: mapAll f ns

end

/-- The tree without its normalizers. -/
def erase (n : Node ν) : Node Unit := n.map fun _ => ()

theorem leavesAll_eq_flatMap (ns : List (Node ν)) : leavesAll ns = ns.flatMap leaves := by
  induction ns with
  | nil => rfl
  | cons n ns ih => simp [leavesAll, ih]

theorem mapAll_eq_map (f : ν → μ) (ns : List (Node ν)) : mapAll f ns = ns.map (map f) := by
  induction ns with
  | nil => rfl
  | cons n ns ih => simp [mapAll, ih]

mutual

/-- Equality of trees is decided from the root down. -/
def decEq [DecidableEq ν] : (a b : Node ν) → Decidable (a = b)
  | .literal l, .literal m =>
    if h : l = m then isTrue (by rw [h]) else isFalse (by intro e; cases e; exact h rfl)
  | .literal _, .branch .. => isFalse (by intro e; cases e)
  | .branch .., .literal _ => isFalse (by intro e; cases e)
  | .branch op a b rest, .branch op' a' b' rest' =>
    if ho : op = op' then
      match decEq a a', decEq b b', decEqAll rest rest' with
      | isTrue ha, isTrue hb, isTrue hr => isTrue (by rw [ho, ha, hb, hr])
      | isFalse h, _, _ => isFalse (by intro e; cases e; exact h rfl)
      | _, isFalse h, _ => isFalse (by intro e; cases e; exact h rfl)
      | _, _, isFalse h => isFalse (by intro e; cases e; exact h rfl)
    else isFalse (by intro e; cases e; exact ho rfl)

/-- Equality of lists of trees is decided element by element. -/
def decEqAll [DecidableEq ν] : (a b : List (Node ν)) → Decidable (a = b)
  | [], [] => isTrue rfl
  | [], _ :: _ => isFalse (by intro e; cases e)
  | _ :: _, [] => isFalse (by intro e; cases e)
  | a :: as, b :: bs =>
    match decEq a b, decEqAll as bs with
    | isTrue h, isTrue hs => isTrue (by rw [h, hs])
    | isFalse h, _ => isFalse (by intro e; cases e; exact h rfl)
    | _, isFalse h => isFalse (by intro e; cases e; exact h rfl)

end

instance [DecidableEq ν] : DecidableEq (Node ν) := decEq

end Node

/-- The name of a connective in reports. -/
def Connective.nodeName : Connective → Text
  | .and => "AndQuery".toList
  | .or => "OrQuery".toList

/-- The report of a branch with too few children. -/
def TooFewChildren.message (e : TooFewChildren) : Text :=
  e.op.nodeName ++ " needs at least 2 children, got ".toList ++ Text.ofNat e.count

end QueryTree

import QueryTree.Query.Scan

/-!
# Parsing a query

Groups are alternatives, the literals of a group are required together.  A query without any
literal has no tree.

Every literal takes at least one character of its group and every group at least one of its
query, so a scanner that is applied once more than there are characters has found everything.

## Main definitions

* `Query.groups`: the groups of a query with their bounds.
* `Query.literals`: the literals of a group with their bounds.
* `Query.parse`: the tree of a query.
* `QueryInput`, `Query.parseInput`: a query that may turn out not to be a text.
-/

namespace QueryTree

namespace Query

variable {ν : Type}

/-- The groups of a query with their bounds. -/
def groups (query : Text) : List (Bounds × Text) :=
  (Scan.runs (Scan.groupAt query) Bounds.stop (query.length + 1) 0).map
    fun b => (b, b.slice query)

/-- The literals of a group with their bounds. -/
def literals (normalizer : ν) (group : Text) : List (Bounds × Literal ν) :=
  Scan.runs (Scan.literalAt normalizer group) (·.1.stop) (group.length + 1) 0

/-- The tree of a group. -/
def parseGroup (normalizer : ν) (group : Text) : Option (Node ν) :=
  Node.fold .and ((literals normalizer group).map fun l => .literal l.2)

/-- The tree of a query, with the given normalizer at every literal. -/
def parse (normalizer : ν) (query : Text) : Option (Node ν) :=
  Node.fold .or ((groups query).filterMap fun g => parseGroup normalizer g.2)

end Query

/-- The kinds of values other than texts that can be given as a query. -/
inductive ValueKind
  | nothing
  | boolean
  | integer
  | float
  | list
  | table
deriving DecidableEq, Repr

/-- The name of a kind of values in reports. -/
def ValueKind.name : ValueKind → Text
  | .nothing => "NoneType".toList
  | .boolean => "bool".toList
  | .integer => "int".toList
  | .float => "float".toList
  | .list => "list".toList
  | .table => "dict".toList

/-- What is given as a query. -/
inductive QueryInput
  | text (t : Text)
  | other (kind : ValueKind)
deriving DecidableEq, Repr

/-- A query that is not a text. -/
structure NotText where
  found : ValueKind
deriving DecidableEq, Repr

/-- The report of a query that is not a text. -/
def NotText.message (e : NotText) : Text :=
  "Query must be a string, got ".toList ++ e.found.name

/-- The tree of what is given as a query. -/
def Query.parseInput {ν : Type} (normalizer : ν) :
    QueryInput → Except NotText (Option (Node ν))
  | .text t => .ok (Query.parse normalizer t)
  | .other kind => .error ⟨kind⟩

end QueryTree

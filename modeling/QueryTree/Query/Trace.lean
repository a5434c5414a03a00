import QueryTree.Query.Describe
import QueryTree.Query.Parser

/-!
# The account of a parse

Parsing a query can be followed step by step: each group that was found, then each of its
literals, and a last word when there was no literal at all.

## Main definitions

* `TraceEvent`: a step, with `TraceEvent.message`.
* `Query.trace`: the steps of a parse.
-/

namespace QueryTree

/-- A step of a parse. -/
inductive TraceEvent (ν : Type)
  /-- A group was found in the query. -/
  | group (text : Text) (bounds : Bounds)
  /-- A literal was found in a group. -/
  | literal (around : Text) (bounds : Bounds) (found : Literal ν)
  /-- The query has no literal. -/
  | noLiterals (query : Text)
deriving DecidableEq, Repr

variable {ν : Type}

/-- Where something was found, written out. -/
def Bounds.place (b : Bounds) : Text := Text.ofInt b.start ++ '+' :: Text.ofInt b.length

/-- The record of a step. -/
def TraceEvent.message : TraceEvent ν → Text
  | .group text b => "Group ".toList ++ text.quoted ++ " at ".toList ++ b.place
  | .literal around b found =>
    "Literal ".toList ++ around.quoted ++ " at ".toList ++ b.place ++ " -> ".toList
      ++ found.describe
  | .noLiterals query => "Query ".toList ++ query.quoted ++ " has no literals".toList

namespace Query

/-- The steps that one group takes. -/
def traceGroup (normalizer : ν) (b : Bounds) (text : Text) : List (TraceEvent ν) :=
  .group text b :: (literals normalizer text).map fun l => .literal text l.1 l.2

/-- The steps of a parse. -/
def trace (normalizer : ν) (query : Text) : List (TraceEvent ν) :=
  (groups query).flatMap (fun g => traceGroup normalizer g.1 g.2)
    ++ (match parse normalizer query with
      | none => [.noLiterals query]
      | some _ => [])

end Query
end QueryTree

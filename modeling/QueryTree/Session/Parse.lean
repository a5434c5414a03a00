import QueryTree.Session.Basic
import QueryTree.Query.Json
import QueryTree.Query.Printer
import QueryTree.Query.Trace
import QueryTree.TreeView.Layout

/-!
# The command that parses a query

The tree of a query is shown as an outline, as JSON or in query syntax.

## Main definitions

* `Context`: what a command knows about the way it was called.
* `OutputFormat`: the forms in which a tree is shown.
* `Action.parse`: parses a query and shows its tree.
-/

namespace QueryTree

/-- What a command knows about the way it was called. -/
structure Context where
  config : Option Config := none
  verbose : Bool := false
  quiet : Bool := false
  debug : Bool := false
deriving DecidableEq, Repr

/-- Whether messages that are no errors are shown. -/
def Context.isTalkative (c : Context) : Bool := c.verbose || !c.quiet

/-- The forms in which a tree is shown. -/
inductive OutputFormat
  | tree
  | json
  | text
deriving DecidableEq, Repr

namespace OutputFormat

/-- The forms by name. -/
def named : List (Text × OutputFormat) :=
  [("tree".toList, .tree), ("json".toList, .json), ("text".toList, .text)]

/-- The form of a name; an outline for every other word. -/
def ofText (t : Text) : OutputFormat := (named.lookup t).getD .tree

end OutputFormat

namespace Action

/-- The number of cells in a line: more than any line has. -/
def consoleWidth : Nat := 10000

/-- Prints lines to the output. -/
def printLines (lines : List Text) : Action Unit :=
  onTerminal (Terminal.append .output (lines.flatMap (· ++ ['\n'])))

/-- Prints an outline. -/
def printOutline (o : Outline) : Action Unit :=
  match o.draw false consoleWidth with
  | .ok lines => printLines lines
  | .error e => fail (.markup e)

/-- Shows a tree that may be missing. -/
def showTree {ν : Type} (ctx : Context) (format : OutputFormat) :
    Option (Node ν) → Action Unit := fun tree =>
  match format, tree with
  | .json, tree => echo .output (Node.json tree)
  | _, none =>
    if ctx.isTalkative then printing (Terminal.info "Query contains no literals.".toList)
    else return ()
  | .text, some n => echo .output n.print
  | .tree, some n => do
    printing (Terminal.verbose ("Canonical form: ".toList ++ n.print))
    printOutline (Outline.ofNode n)

/-- Keeps the account of a parse in the log, if records for debugging are kept. -/
def logTrace {ν : Type} (normalizer : ν) (query : Text) : Action Unit := do
  let s ← get
  if s.terminal.keepsDebug then
    onTerminal (Terminal.record ((Query.trace normalizer query).map TraceEvent.message))

/-- Parses a query and shows its tree. -/
def parse (ctx : Context) (query : QueryInput) (format : OutputFormat) : Action Unit := do
  match (ctx.config.getD {}).normalizer with
  | .error e => fail (.pattern e)
  | .ok normalizer =>
    printing (Terminal.debug ("Normalizer: ".toList ++ normalizer.describe))
    match query with
    | .other kind => complain (NotText.mk kind).message []
    | .text q =>
      logTrace normalizer q
      showTree ctx format (Query.parse normalizer q)

end Action
end QueryTree

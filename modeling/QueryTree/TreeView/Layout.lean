import QueryTree.TreeView.Outline
import QueryTree.TreeView.Wrap

/-!
# Drawing an outline

The labels of an outline are drawn below each other, with guides that show which node belongs
where.  Every level takes four cells of the width, and a label that is too wide is wrapped.

## Main definitions

* `Theme.code?`: the terminal code of a style.
* `Theme.paint`: a line with its styles as terminal codes.
* `Outline.draw`: the printed lines of an outline.
-/

namespace QueryTree

namespace Theme

/-- The terminal codes of the named styles. -/
def codes : List (Text × Text) :=
  [("info".toList, "36".toList), ("warning".toList, "33".toList),
    ("error".toList, "1;31".toList), ("success".toList, "1;32".toList),
    ("path".toList, "4;34".toList), ("query.and".toList, "1;35".toList),
    ("query.or".toList, "1;34".toList), ("query.term".toList, "32".toList),
    ("query.phrase".toList, "33".toList), ("query.wildcard".toList, "36".toList),
    ("query.not".toList, "1;31".toList)]

/-- The terminal code of a style, if it is a named one. -/
def code? (style : Text) : Option Text := codes.lookup style

/-- The terminal code at a character: that of the newest named style. -/
def codeAt? (c : StyledChar) : Option Text := c.styles.findSome? code?

/-- The code that changes the style, or that goes back to no style. -/
def escapeCode (code : Text) : Text := '\x1b' :: '[' :: code ++ ['m']

/-- What is written where the code at one character changes to that at the next. -/
def change (before after : Option Text) : Text :=
  if before = after then []
  else (if before.isSome then escapeCode ['0'] else [])
    ++ (match after with
      | some code => escapeCode code
      | none => [])

/-- A line with its styles as terminal codes, when a code is in effect already. -/
def paintFrom (current : Option Text) : Wrap.Line → Text
  | [] => change current none
  | c :: cs => change current (codeAt? c) ++ c.char :: paintFrom (codeAt? c) cs

/-- A line as it is printed, with or without its styles. -/
def paint (color : Bool) (l : Wrap.Line) : Text :=
  if color then paintFrom none l else l.map (·.char)

end Theme

namespace Outline

/-- The guide before a node that has further ones after it, and before the last one. -/
def branchGuide (isLast : Bool) : Text := if isLast then "└── ".toList else "├── ".toList

/-- The guide below a node that has further ones after it, and below the last one. -/
def belowGuide (isLast : Bool) : Text := if isLast then "    ".toList else "│   ".toList

/-- Guides before the lines of a label: one before the first, the other before the rest. -/
def guided (first rest : Text) : List Text → List Text
  | [] => []
  | l :: ls => (first ++ l) :: ls.map (rest ++ ·)

/-- The printed lines of a label. -/
def labelLines (color : Bool) (width : Nat) (label : Text) : Except MarkupError (List Text) :=
  (Markup.render label).map fun cs => (Wrap.lines width cs).map (Theme.paint color)

mutual

/-- The printed lines of an outline with guides before its first line and its other lines. -/
def drawWith (color : Bool) (width : Nat) (first rest : Text) :
    Outline → Except MarkupError (List Text)
  | .node label below => do
    let own ← labelLines color width label
    let others ← drawAll color (width - 4) rest below
    return guided first rest own ++ others

/-- The printed lines of outlines below a node. -/
def drawAll (color : Bool) (width : Nat) (guide : Text) :
    List Outline → Except MarkupError (List Text)
  | [] => .ok []
  | o :: os => do
    let isLast := os.isEmpty
    let own ← drawWith color width (guide ++ branchGuide isLast) (guide ++ belowGuide isLast) o
    let others ← drawAll color width guide os
    return own ++ others

end

/-- The printed lines of an outline at a width. -/
def draw (color : Bool) (width : Nat) (o : Outline) : Except MarkupError (List Text) :=
  drawWith color width [] [] o

end Outline
end QueryTree

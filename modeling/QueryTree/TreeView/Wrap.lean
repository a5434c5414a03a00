import QueryTree.Markup.Render

/-!
# Wrapping lines

A line that is too wide is broken between words.  A word takes the white space after it along, but
that white space does not count when the word is fitted in.  A word that is wider than a whole
line starts on a new line and is cut to pieces of the full width.  White space that sticks out at
the end of a line is dropped.

## Main definitions

* `Wrap.words`: the words of a line with their white space.
* `Wrap.breaks`: the positions at which a line is broken.
* `Wrap.lines`: the lines of a text at a given width.
-/

namespace QueryTree
namespace Wrap

/-- A line of styled characters. -/
abbrev Line := List StyledChar

/-- The number of cells that a line takes. -/
def cells (l : Line) : Nat := Text.cells (l.map StyledChar.char)

/-- Whether a styled character is white space. -/
def isBlank (c : StyledChar) : Bool := Text.isBlank c.char

/-- The white space at the end of a line. -/
def trailing (l : Line) : Nat := (l.reverse.takeWhile isBlank).length

/-- A line without the white space at its end. -/
def trimmed (l : Line) : Line := l.take (l.length - trailing l)

/-- The words of the rest of a line, when `found` has been collected for the next word, last
character first.  A word ends before the first visible character after its white space. -/
def wordsFrom (found : Line) : Line → List Line
  | [] => if found.all isBlank then [] else [found.reverse]
  | c :: cs =>
    if isBlank c || found.all isBlank || !found.head?.any isBlank then wordsFrom (c :: found) cs
    else found.reverse :: wordsFrom [c] cs

/-- The words of a line: each has white space before it only if it is the first, and takes the
white space after it. -/
def words (l : Line) : List Line := wordsFrom [] l

/-- The pieces of a word that is cut to a width, when a piece of `used` cells has been collected,
last character first. -/
def chopFrom (width used : Nat) (found : Line) : Line → List Line
  | [] => [found.reverse]
  | c :: cs =>
    let w := Text.cellWidth c.char
    if width < used + w then found.reverse :: chopFrom width w [c] cs
    else chopFrom width (used + w) (c :: found) cs

/-- The pieces of a word that is cut to a width. -/
def chop (width : Nat) (word : Line) : List Line := chopFrom width 0 [] word

/-- The positions at which pieces start, from a position on. -/
def starts (position : Nat) : List Line → List Nat
  | [] => []
  | p :: ps => position :: starts (position + p.length) ps

/-- The positions at which a line is broken before or inside the given words, of which the first
starts at `position`, when `used` cells of the current line are taken. -/
def breaks (width position used : Nat) : List Line → List Nat
  | [] => []
  | w :: ws =>
    let next := position + w.length
    let needed := cells (trimmed w)
    if used + needed ≤ width then breaks width next (used + cells w) ws
    else if width < needed then
      let parts := chop width w
      (starts position parts).filter (· ≠ 0)
        ++ breaks width next (cells (parts.getLast?.getD [])) ws
    else if used ≠ 0 ∧ position ≠ 0 then position :: breaks width next (cells w) ws
    else breaks width next used ws

/-- A line cut at positions, the first character being at `position`. -/
def cut (position : Nat) : List Nat → Line → List Line
  | [], l => [l]
  | b :: bs, l => l.take (b - position) :: cut b bs (l.drop (b - position))

/-- The start of a line that fits into a number of cells; a wide character that fits by half is
shown as a space. -/
def fit (room : Nat) : Line → Line
  | [] => []
  | c :: cs =>
    let w := Text.cellWidth c.char
    if w ≤ room then c :: fit (room - w) cs
    else if room = 0 then []
    else [{ c with char := ' ' }]

/-- A line without the white space that sticks out. -/
def crop (width : Nat) (l : Line) : Line :=
  let l := l.take (l.length - min (trailing l) (l.length - width))
  if width < cells l then fit width l else l

/-- The lines of a text at a given width; a text has no lines where there is no room. -/
def lines (width : Nat) (text : Line) : List Line :=
  if width = 0 then []
  else (Text.pieces (fun c => c.char = '\n') text).flatMap fun l =>
    let l := Markup.expandTabs 0 l
    (cut 0 (breaks width 0 0 (words l)) l).map (crop width)

end Wrap
end QueryTree

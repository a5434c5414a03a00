import QueryTree.Markup.Tag
import QueryTree.Text.Blank
import QueryTree.Text.CellWidth
import QueryTree.Text.LowerCase

/-!
# Showing console text

The tags of console text open and close styles and are not shown themselves.  A closing tag closes
the newest open style of its name, or the newest one if it has no name; if there is none the text
is refused.  In the text between tags an escaped bracket is shown as a bracket, names between
colons are replaced by the pictures that they name, and a few control characters are dropped.

## Main definitions

* `StyledChar`: a character with the styles that are open at it.
* `MarkupError`: a tag that closes nothing.
* `Markup.render`: console text as styled characters.
* `Markup.expandTabs`: tabs filled up with spaces.
* `Markup.plain`: console text as it is printed without styles.
-/

namespace QueryTree

/-- A character with the names of the open styles, newest first. -/
structure StyledChar where
  char : Char
  styles : List Text
deriving DecidableEq, Repr

/-- A closing tag that closes nothing. -/
inductive MarkupError
  /-- No open style has the name of the tag. -/
  | noSuchStyle (tag : Text) (position : Nat)
  /-- No style is open. -/
  | nothingOpen (position : Nat)
deriving DecidableEq, Repr

/-- The report of a tag that closes nothing. -/
def MarkupError.message : MarkupError → Text
  | .noSuchStyle tag position =>
    "closing tag \x27".toList ++ Markup.bracketed tag ++ "\x27 at position ".toList
      ++ Text.ofNat position ++ " doesn\x27t match any open tag".toList
  | .nothingOpen position =>
    "closing tag \x27[/]\x27 at position ".toList ++ Text.ofNat position
      ++ " has nothing to close".toList

namespace Markup

/-- The pictures that names between colons stand for. -/
def pictures : List (Text × Char) :=
  [("cat".toList, Char.ofNat 0x1f431), ("dog".toList, Char.ofNat 0x1f436)]

/-- The suffixes of names that choose between two forms of a picture. -/
def pictureForms : List (Text × Char) :=
  [("-emoji".toList, Char.ofNat 0xfe0f), ("-text".toList, Char.ofNat 0xfe0e)]

/-- A name without the suffix that chooses a form, and the form. -/
def splitForm (name : Text) : Text × Text :=
  match pictureForms.find? fun f => f.1.isSuffixOf name with
  | some (suffix, form) => (name.take (name.length - suffix.length), [form])
  | none => (name, [])

/-- The picture that a name stands for, in the form that it chooses. -/
def picture? (name : Text) : Option Text :=
  match splitForm name with
  | (base, form) => (pictures.lookup (Text.lower base)).map fun c => c :: form

/-- What stands between a colon at the front of a text and the next one, if no white space stands
between them. -/
def pictureName? : Text → Option Text
  | ':' :: cs =>
    let inside (c : Char) : Bool := c ≠ ':' && !Text.isBlank c
    if (cs.dropWhile inside).head? = some ':' then some (cs.takeWhile inside) else none
  | _ => none

/-- The rest of a text with pictures in place of their names; `skip` characters are dealt with
already. -/
def picturesFrom (skip : Nat) : Text → Text
  | [] => []
  | c :: cs =>
    match skip with
    | n + 1 => picturesFrom n cs
    | 0 =>
      match pictureName? (c :: cs) with
      | none => c :: picturesFrom 0 cs
      | some name =>
        (picture? name).getD (':' :: name ++ [':']) ++ picturesFrom (name.length + 1) cs

/-- A text with escaped brackets as brackets. -/
def unescapeBrackets : Text → Text
  | '\\' :: '[' :: cs => '[' :: unescapeBrackets cs
  | c :: cs => c :: unescapeBrackets cs
  | [] => []

/-- Whether a control character is dropped. -/
def isDropped (c : Char) : Bool :=
  c = '\x07' || c = '\x08' || c = '\x0b' || c = '\x0c' || c = '\x0d'

/-- How the text between tags is shown. -/
def shown (t : Text) : Text :=
  (picturesFrom 0 (unescapeBrackets t)).filter fun c => !isDropped c

/-- The name of a style as it is compared: in lower case and without white space around it. -/
def styleName (t : Text) : Text :=
  Text.lower (((t.dropWhile Text.isBlank).reverse.dropWhile Text.isBlank).reverse)

/-- The styles that are open after a tag. -/
def applyTag (position : Nat) (body : Text) (active : List Text) :
    Except MarkupError (List Text) :=
  match body.takeWhile (· ≠ '=') with
  | '/' :: name =>
    match styleName name, active with
    | [], [] => .error (.nothingOpen position)
    | [], _ :: rest => .ok rest
    | name, rest =>
      if rest.contains name then .ok (rest.erase name)
      else .error (.noSuchStyle body position)
  | name => .ok (styleName name :: active)

/-- The pieces of console text as styled characters, when some styles are open already. -/
def renderFrom (active : List Text) : List MarkupPiece → Except MarkupError (List StyledChar)
  | [] => .ok []
  | .plain t :: ps => do
    let rest ← renderFrom active ps
    return (shown t).map (⟨·, active⟩) ++ rest
  | .tag position body :: ps => do
    let active ← applyTag position body active
    renderFrom active ps

/-- Console text as styled characters. -/
def render (t : Text) : Except MarkupError (List StyledChar) := renderFrom [] (split t)

/-- A text with every tab filled up with spaces to the next multiple of eight cells, from a
column on. -/
def expandTabs (column : Nat) : List StyledChar → List StyledChar
  | [] => []
  | c :: cs =>
    if c.char = '\t' then
      let count := 8 - column % 8
      List.replicate count { c with char := ' ' } ++ expandTabs (column + count) cs
    else if c.char = '\n' then c :: expandTabs 0 cs
    else c :: expandTabs (column + Text.cellWidth c.char) cs

/-- Console text as it is printed without styles. -/
def plain (t : Text) : Except MarkupError Text :=
  (render t).map fun cs => (expandTabs 0 cs).map (·.char)

end Markup
end QueryTree

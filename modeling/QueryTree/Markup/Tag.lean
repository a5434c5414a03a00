import QueryTree.Text.Basic

/-!
# Tags in console text

Console text holds tags in square brackets.  A tag starts with a lower-case letter, `#`, `/` or
`@`, runs to the next closing bracket and has no opening bracket inside; other brackets are
ordinary characters.  Backslashes before a tag are read in pairs, each pair as one backslash, and
an odd one makes the tag ordinary text.

Escaping a text puts backslashes before its tags, so that the text is shown as it is.

## Main definitions

* `Markup.tagAhead?`: the backslashes and the tag at the front of a text.
* `MarkupPiece`, `Markup.split`: the pieces of console text.
* `Markup.escape`: a text with its tags made ordinary.
-/

namespace QueryTree

/-- A piece of console text. -/
inductive MarkupPiece
  | plain (t : Text)
  /-- A tag: where it stands in the whole text, and what stands between its brackets. -/
  | tag (position : Nat) (body : Text)
deriving DecidableEq, Repr

namespace Markup

/-- Whether a character can start a tag. -/
def startsTag (c : Char) : Bool := ('a' ≤ c && c ≤ 'z') || c = '#' || c = '/' || c = '@'

/-- Whether a character can stand inside a tag. -/
def insideTag (c : Char) : Bool := c ≠ '[' && c ≠ ']'

/-- What stands between the brackets of a tag at the front of a text. -/
def tagBody? : Text → Option Text
  | '[' :: c :: cs =>
    if startsTag c && (cs.dropWhile insideTag).head? = some ']' then
      some (c :: cs.takeWhile insideTag)
    else none
  | _ => none

/-- The number of backslashes at the front of a text. -/
def slashes (t : Text) : Nat := (t.takeWhile (· = '\\')).length

/-- The tag at the front of a text, after the number of backslashes before it. -/
def tagAhead? (t : Text) : Option (Nat × Text) :=
  (tagBody? (t.drop (slashes t))).map fun body => (slashes t, body)

/-- A tag with its brackets. -/
def bracketed (body : Text) : Text := '[' :: body ++ [']']

/-- The characters that a tag takes together with the backslashes before it. -/
def span (count : Nat) (body : Text) : Nat := count + body.length + 2

/-- The text that has been collected, last character first, as a piece; none if it is empty. -/
def flush : Text → List MarkupPiece
  | [] => []
  | c :: cs => [.plain (c :: cs).reverse]

/-- The pieces of a tag at a position, after a number of backslashes. -/
def tagPieces (position count : Nat) (body : Text) : List MarkupPiece :=
  (if count / 2 = 0 then [] else [.plain (List.replicate (count / 2) '\\')])
    ++ [if count % 2 = 0 then .tag (position + count) body else .plain (bracketed body)]

/-- The pieces of the rest of a text at a position: `skip` characters belong to a piece already
given, and `found` has been collected for the next one, last character first. -/
def splitFrom (skip position : Nat) (found : Text) : Text → List MarkupPiece
  | [] => flush found
  | c :: cs =>
    match skip with
    | n + 1 => splitFrom n (position + 1) found cs
    | 0 =>
      match tagAhead? (c :: cs) with
      | none => splitFrom 0 (position + 1) (c :: found) cs
      | some (count, body) =>
        flush found ++ tagPieces position count body
          ++ splitFrom (span count body - 1) (position + 1) [] cs

/-- The pieces of console text. -/
def split (t : Text) : List MarkupPiece := splitFrom 0 0 [] t

/-- The rest of a text with its tags made ordinary; `skip` characters are dealt with already. -/
def escapeFrom (skip : Nat) : Text → Text
  | [] => []
  | c :: cs =>
    match skip with
    | n + 1 => escapeFrom n cs
    | 0 =>
      match tagAhead? (c :: cs) with
      | none => c :: escapeFrom 0 cs
      | some (count, body) =>
        List.replicate (2 * count + 1) '\\' ++ bracketed body
          ++ escapeFrom (span count body - 1) cs

/-- Doubles a single backslash at the end of a text. -/
def closeSlash (t : Text) : Text :=
  if slashes t.reverse = 1 then t ++ ['\\'] else t

/-- A text with its tags made ordinary. -/
def escape (t : Text) : Text := closeSlash (escapeFrom 0 t)

end Markup
end QueryTree

import QueryTree.Text.Printable

/-!
# Quoted texts

A text is shown between quotes, so that it can be told apart from what stands around it: between
single quotes, or between double quotes when it holds a single and no double quote.  Inside, the
quote in use and the backslash are marked by a backslash, line feed, carriage return and tab are
written by letter, and other unprintable characters by the shortest of three fixed-width
hexadecimal forms.

## Main definitions

* `Text.quoteMark`: the quote that is used for a text.
* `Text.quotedChar`: how one character is written.
* `Text.quoted`: the quoted text.
-/

namespace QueryTree.Text

/-- The single quote. -/
def singleQuote : Char := '\x27'

/-- The quote that a text is written with. -/
def quoteMark (t : Text) : Char :=
  if t.contains singleQuote && !t.contains '"' then '"' else singleQuote

/-- How a character is written between quotes `q`. -/
def quotedChar (q c : Char) : Text :=
  if c = q || c = '\\' then ['\\', c]
  else if c = '\n' then ['\\', 'n']
  else if c = '\r' then ['\\', 'r']
  else if c = '\t' then ['\\', 't']
  else if isPrintable c then [c]
  else if c.toNat < 0x100 then '\\' :: 'x' :: hex 2 c.toNat
  else if c.toNat < 0x10000 then '\\' :: 'u' :: hex 4 c.toNat
  else '\\' :: 'U' :: hex 8 c.toNat

/-- A text between quotes. -/
def quoted (t : Text) : Text :=
  let q := quoteMark t
  q :: t.flatMap (quotedChar q) ++ [q]

end QueryTree.Text

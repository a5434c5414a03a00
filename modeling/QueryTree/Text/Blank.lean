import QueryTree.Text.CodeClass

/-!
# White space

White space is every character with the bidirectional type of a separator or the category of a
space, in Unicode 14: tab to carriage return, the four information separators, the space, next
line, no-break space and the wide spaces.

## Main definitions

* `Text.isBlank`: the test.
* `Text.words`: the maximal runs of characters that are not white space.
-/

namespace QueryTree.Text

/-- The white-space characters. -/
def blanks : CodeClass := ⟨[
  9, 14, 28, 33, 133, 134, 160, 161, 5760, 5761, 8192, 8203, 8232, 8234, 8239, 8240, 8287, 8288,
  12288, 12289]⟩

/-- Whether a character is white space. -/
def isBlank (c : Char) : Bool := blanks.has c

/-- The maximal runs of characters that are not white space, from left to right. -/
def words (t : Text) : List Text := (pieces isBlank t).filter (fun w => !w.isEmpty)

end QueryTree.Text

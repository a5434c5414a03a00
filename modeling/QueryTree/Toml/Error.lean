import QueryTree.Text.Quoted
import QueryTree.Toml.Value

/-!
# What can be wrong with a TOML document

## Main definitions

* `Toml.Fault`: what is wrong, with `Fault.message`.
* `Toml.Place`: where it is wrong.
* `Toml.Error`: a refused document, with `Error.message`.
-/

namespace QueryTree.Toml

/-- What is wrong with a document. -/
inductive Fault
  | invalidStatement
  | expectedNewline
  | invalidCharacter (c : Char)
  | expectedClosing (quotes : Text)
  | illegalCharacter (c : Char)
  | unterminatedString
  | unescapedBackslash
  | invalidHex
  | notScalar
  | invalidKeyStart
  | expectedEquals
  | invalidValue
  | invalidDate
  | unclosedArray
  | unclosedInlineTable
  | duplicateInlineKey (name : Text)
  | declaredTwice (key : Key)
  | overwrite
  | expectedTableEnd
  | expectedArrayEnd
  | immutable (key : Key)
  | redefined (key : Key)
deriving DecidableEq, Repr

/-- A key written out. -/
def Key.describe : Key → Text
  | [name] => '(' :: name.quoted ++ [',', ')']
  | names => '(' :: Text.joinWith [',', ' '] (names.map Text.quoted) ++ [')']

/-- The report of a fault, without its place. -/
def Fault.message : Fault → Text
  | .invalidStatement => "Invalid statement".toList
  | .expectedNewline => "Expected newline or end of document after a statement".toList
  | .invalidCharacter c => "Found invalid character ".toList ++ Text.quoted [c]
  | .expectedClosing quotes => "Expected ".toList ++ quotes.quoted
  | .illegalCharacter c => "Illegal character ".toList ++ Text.quoted [c]
  | .unterminatedString => "Unterminated string".toList
  | .unescapedBackslash => "Unescaped \x27\\\x27 in a string".toList
  | .invalidHex => "Invalid hex value".toList
  | .notScalar => "Escaped character is not a Unicode scalar value".toList
  | .invalidKeyStart => "Invalid initial character for a key part".toList
  | .expectedEquals => "Expected \x27=\x27 after a key in a key/value pair".toList
  | .invalidValue => "Invalid value".toList
  | .invalidDate => "Invalid date or datetime".toList
  | .unclosedArray => "Unclosed array".toList
  | .unclosedInlineTable => "Unclosed inline table".toList
  | .duplicateInlineKey name => "Duplicate inline table key ".toList ++ name.quoted
  | .declaredTwice key => "Cannot declare ".toList ++ key.describe ++ " twice".toList
  | .overwrite => "Cannot overwrite a value".toList
  | .expectedTableEnd => "Expected \x27]\x27 at the end of a table declaration".toList
  | .expectedArrayEnd => "Expected \x27]]\x27 at the end of an array declaration".toList
  | .immutable key => "Cannot mutate immutable namespace ".toList ++ key.describe
  | .redefined key => "Cannot redefine namespace ".toList ++ key.describe

/-- A place in a document. -/
inductive Place
  | documentEnd
  | at (line column : Nat)
deriving DecidableEq, Repr

namespace Place

/-- The place at which a number of characters of a document are left. -/
def of (document : Text) (left : Nat) : Place :=
  if left = 0 then .documentEnd
  else
    let before := document.take (document.length - left)
    .at (before.count '\n' + 1) ((before.reverse.takeWhile (· ≠ '\n')).length + 1)

/-- A place written out. -/
def message : Place → Text
  | .documentEnd => " (at end of document)".toList
  | .at line column =>
    " (at line ".toList ++ Text.ofNat line ++ ", column ".toList ++ Text.ofNat column ++ [')']

end Place

/-- Why a document is refused. -/
structure Error where
  fault : Fault
  place : Place
deriving DecidableEq, Repr

/-- The report of a refused document. -/
def Error.message (e : Error) : Text := e.fault.message ++ e.place.message

end QueryTree.Toml
